import MailSearch.Proofs.Data.IdSet
import MailSearch.Proofs.Data.Outcome
import MailSearch.Query.Property

/-!
# Names in selections

A name asks for a property, for the text of the body under a second name, or for
a single header field.  A list of such names is a selection, which depends on
what is asked for alone: not on the order and the repetition of names, nor on
the letter case of header fields.
-/

namespace MailSearch
namespace Query

/-! ## One name -/

/-- A name asks for something. -/
inductive Wish.Spells : String -> Wish -> Prop where
  /-- A property has its own name. -/
  | property (known : Property) : Spells known.name (.property known)
  /-- The text of the body has a second name. -/
  | body : Spells "body" (.property .textBody)
  /-- A header field has its name in any letter case, behind a mark. -/
  | header {name : String} (nonempty : name ≠ "") :
      Spells ("headers." ++ name) (.header (Text.asciiLowercase name))

namespace Property

theorem name_ne_body
    (property : Property) :
    property.name ≠ "body" := by
  cases property <;> decide

theorem find?_name
    (property : Property) :
    all.find? (fun other => other.name == property.name) = some property := by
  cases property <;> rfl

theorem name_injective : Function.Injective name := by
  intro left right same
  have found := find?_name left
  rw [same, find?_name right] at found
  exact (Option.some.inj found).symm

theorem ofName?_eq_some_iff
    {name : String}
    {property : Property} :
    ofName? name = some property ↔
      property.name = name ∨ name = "body" ∧ property = .textBody := by
  unfold ofName?
  split
  · rename_i isBody
    subst isBody
    simp only [Option.some.injEq, name_ne_body, false_or, true_and]
    exact eq_comm
  · rename_i notBody
    simp only [notBody, false_and, or_false]
    constructor
    · intro found
      have named : (property.name == name) = true :=
        List.find?_some (p := fun other : Property => other.name == name) found
      exact beq_iff_eq.mp named
    · rintro rfl
      exact find?_name property

end Property

namespace Wish

theorem headerMark_isPrefixOf_name
    (property : Property) :
    headerMark.isPrefixOf property.name.toList = false := by
  cases property <;> decide

theorem toList_header
    (name : String) :
    ("headers." ++ name).toList = headerMark ++ name.toList := by
  rw [String.toList_append]
  rfl

/-- Behind the mark any name but the empty one is that of a header field. -/
theorem ofName_header
    (name : String) :
    ofName ("headers." ++ name) =
      if name = "" then .error (.unknownProperty ("headers." ++ name))
      else .ok (.header (Text.asciiLowercase name)) := by
  have marked : headerMark.isPrefixOf (headerMark ++ name.toList) = true := by
    simp
  simp only [ofName, toList_header, marked, if_true, List.drop_left,
    List.isEmpty_iff, String.toList_eq_nil_iff, String.ofList_toList]

/-- A name without the mark is that of a property. -/
theorem ofName_of_unmarked
    {text : String}
    (unmarked : headerMark.isPrefixOf text.toList = false)
    {wish : Wish} :
    ofName text = .ok wish ↔
      ∃ known, Property.ofName? text = some known ∧ .property known = wish := by
  simp only [ofName, unmarked, Bool.false_eq_true, if_false]
  cases Property.ofName? text <;> simp

/-- A name is read as what it asks for. -/
theorem ofName_eq_ok_iff
    {text : String}
    {wish : Wish} :
    ofName text = .ok wish ↔ Spells text wish := by
  constructor
  · intro read
    cases marked : headerMark.isPrefixOf text.toList with
    | true =>
        obtain ⟨rest, split⟩ := List.isPrefixOf_iff_prefix.mp marked
        have spelled : text = "headers." ++ String.ofList rest := by
          apply String.toList_injective
          rw [toList_header, String.toList_ofList, split]
        subst spelled
        rw [ofName_header] at read
        split at read
        · cases read
        · rename_i nonempty
          cases read
          exact .header nonempty
    | false =>
        obtain ⟨known, found, rfl⟩ := (ofName_of_unmarked marked).mp read
        rcases Property.ofName?_eq_some_iff.mp found with rfl | ⟨rfl, rfl⟩
        · exact .property known
        · exact .body
  · intro spells
    cases spells with
    | property known =>
        rw [ofName_of_unmarked (headerMark_isPrefixOf_name known)]
        exact ⟨known, Property.ofName?_eq_some_iff.mpr (Or.inl rfl), rfl⟩
    | body => rfl
    | header nonempty => rw [ofName_header, if_neg nonempty]

end Wish

/-! ## Selections -/

namespace Selection

theorem parse_eq_ok_iff
    {names : List String}
    {selection : Selection} :
    parse (some names) = .ok selection ↔
      ∃ wishes, List.Forall₂ Wish.Spells names wishes ∧
        ofWishes wishes = selection := by
  have spells : Wish.Spells = fun name wish => Wish.ofName name = .ok wish := by
    funext name wish
    exact propext Wish.ofName_eq_ok_iff.symm
  rw [parse, Outcome.map_eq_ok_iff, spells]
  simp only [Outcome.mapM_eq_ok_iff]

section Wishes

variable {wishes : List Wish}

theorem contains_ofWishes_iff
    {property : Property} :
    (ofWishes wishes).contains property = true ↔
      property = .id ∨ .property property ∈ wishes := by
  have asked : property ∈ wishes.filterMap Wish.property? ↔
      .property property ∈ wishes := by
    rw [List.mem_filterMap]
    constructor
    · rintro ⟨wish, isWish, found⟩
      cases wish with
      | property known =>
          cases found
          exact isWish
      | header name => cases found
    · intro isWish
      exact ⟨_, isWish, rfl⟩
  simp [contains, ofWishes, Property.mem_all, ← asked]

theorem mem_headerNames_ofWishes_iff
    {name : String} :
    name ∈ (ofWishes wishes).headerNames ↔ .header name ∈ wishes := by
  rw [ofWishes, IdSet.mem_ofList, List.mem_filterMap]
  constructor
  · rintro ⟨wish, isWish, found⟩
    cases wish with
    | property known => cases found
    | header other =>
        cases found
        exact isWish
  · intro isWish
    exact ⟨_, isWish, rfl⟩

/-- A selection depends on what is asked for alone. -/
theorem ofWishes_congr
    {others : List Wish}
    (same : ∀ wish, wish ∈ wishes ↔ wish ∈ others) :
    ofWishes wishes = ofWishes others := by
  have sameNames : (ofWishes wishes).headerNames =
      (ofWishes others).headerNames := by
    apply IdSet.eq_of_mem_iff
    intro name
    rw [mem_headerNames_ofWishes_iff, mem_headerNames_ofWishes_iff, same]
  have sameProperties : (ofWishes wishes).properties =
      (ofWishes others).properties := by
    dsimp only [ofWishes]
    apply List.filter_congr
    intro property _
    rw [Bool.eq_iff_iff]
    simp [same]
  exact congrArg₂ Selection.mk sameProperties sameNames

end Wishes

end Selection
end Query
end MailSearch
