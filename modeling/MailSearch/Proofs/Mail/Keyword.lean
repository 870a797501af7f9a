import MailSearch.Data.IdSet
import MailSearch.Mail.Keyword
import MailSearch.Proofs.Data.Outcome
import MailSearch.Proofs.Text.LetterCase

/-!
# Keyword sets

Keywords are told apart and ordered by their names in lower case.  Whichever way
a set of keywords is made, these names ascend in it, and wherever they ascend,
the search of all members finds the same names as the search that ends at the
first member not before the wanted one.
-/

namespace MailSearch
namespace Keyword

instance : Std.TransCmp compare :=
  inferInstanceAs (Std.TransCmp (compareOn key))

theorem same_iff
    {left right : Keyword} :
    left.same right = true ↔ left.key = right.key :=
  beq_iff_eq

/-- The order takes two keywords for equal exactly if they are the same. -/
theorem compare_eq_eq_iff
    {left right : Keyword} :
    left.compare right = .eq ↔ left.same right = true :=
  Std.compare_eq_iff_eq.trans same_iff.symm

theorem ofName?_eq_some_iff
    {name : String}
    {keyword : Keyword} :
    ofName? name = some keyword ↔ keyword.name = name := by
  unfold ofName?
  obtain ⟨known, valid⟩ := keyword
  constructor
  · intro named
    split at named
    · cases named
      rfl
    · cases named
  · rintro rfl
    exact dif_pos valid

theorem isKeywordChar_toLower
    (c : Char) :
    isKeywordChar c.toLower = isKeywordChar c := by
  by_cases ascii : Text.Utf8.IsAscii c
  · have known : ∀ code < 0x80,
        isKeywordChar (Char.ofNat code).toLower =
          isKeywordChar (Char.ofNat code) := by
      decide +kernel
    have found := known c.toNat ascii
    rwa [Char.ofNat_toNat] at found
  · rw [Text.toLower_of_not_isAscii ascii]

/-- Letter case does not decide what is the name of a keyword. -/
theorem isName_asciiLowercase
    (name : String) :
    isName (Text.asciiLowercase name) = isName name := by
  have sameLength : (Text.asciiLowercase name).length = name.length := by
    rw [Text.asciiLowercase, String.length_ofList, List.length_map,
      String.length_toList]
  have sameChars : (Text.asciiLowercase name).toList.all isKeywordChar =
      name.toList.all isKeywordChar := by
    rw [Text.asciiLowercase, String.toList_ofList, List.all_map]
    exact congrArg name.toList.all (funext isKeywordChar_toLower)
  rw [isName, isName, sameLength, sameChars,
    decide_eq_decide.mpr Text.asciiLowercase_eq_empty_iff.ne]

/-- The name of a keyword names one in any letter case. -/
theorem exists_name_eq
    {known name : String}
    (valid : isName known = true)
    (same : Text.sameAscii name known = true) :
    ∃ keyword : Keyword, keyword.name = name := by
  refine ⟨⟨name, ?_⟩, rfl⟩
  rw [← isName_asciiLowercase, Text.sameAscii_iff.mp same,
    isName_asciiLowercase]
  exact valid

/-- Filters pass over the transient keywords in any letter case. -/
theorem isTransient_eq_any
    {keyword : Keyword}
    {known : String}
    (same : Text.sameAscii keyword.name known = true) :
    keyword.isTransient = transient.any fun name =>
      Text.sameAscii name known := by
  simp only [isTransient, Text.sameAscii_congr same]

end Keyword

namespace KeywordSet

/-- The names of the members in lower case. -/
def keys (set : KeywordSet) : List String :=
  set.members.map Keyword.key

/-- The names of the members in lower case stand in strictly ascending order. -/
def Ascending (set : KeywordSet) : Prop :=
  set.keys.Pairwise (· < ·)

/-! ## Making a set -/

section Placing

variable {keyword : Keyword} {members : List Keyword}

theorem map_key_replaceIn
    (keyword : Keyword)
    (members : List Keyword) :
    (replaceIn keyword members).map Keyword.key =
      IdSet.insertSorted keyword.key (members.map Keyword.key) := by
  induction members with
  | nil => rfl
  | cons first rest inductionHypothesis =>
      rw [replaceIn, List.map_cons, IdSet.insertSorted]
      split
      · rfl
      · split
        · rename_i same
          rw [List.map_cons, same]
        · rw [List.map_cons, inductionHypothesis]

theorem map_key_keepIn
    (keyword : Keyword)
    (members : List Keyword) :
    (keepIn keyword members).map Keyword.key =
      IdSet.insertSorted keyword.key (members.map Keyword.key) := by
  induction members with
  | nil => rfl
  | cons first rest inductionHypothesis =>
      rw [keepIn, List.map_cons, IdSet.insertSorted]
      split
      · rfl
      · split
        · rfl
        · rw [List.map_cons, inductionHypothesis]

/-- Keywords that are put at their places one after the other have the set of
their names. -/
theorem map_key_foldl
    {place : Keyword -> List Keyword -> List Keyword}
    (places : ∀ keyword members, (place keyword members).map Keyword.key =
      IdSet.insertSorted keyword.key (members.map Keyword.key))
    (keywords : List Keyword) :
    (keywords.foldl (fun members keyword => place keyword members) []).map
        Keyword.key =
      (IdSet.ofList (keywords.map Keyword.key)).ids := by
  have onward : ∀ (set : IdSet) (members : List Keyword),
      members.map Keyword.key = set.ids →
      (keywords.foldl (fun members keyword => place keyword members)
          members).map Keyword.key =
        ((keywords.map Keyword.key).foldl IdSet.insert set).ids := by
    induction keywords with
    | nil => exact fun _ _ same => same
    | cons keyword rest inductionHypothesis =>
        intro set members same
        refine inductionHypothesis (set.insert keyword.key)
          (place keyword members) ?_
        rw [places, same]
        rfl
  exact onward .empty [] rfl

theorem keys_ofList
    (keywords : List Keyword) :
    (ofList keywords).keys = (IdSet.ofList (keywords.map Keyword.key)).ids :=
  map_key_foldl map_key_replaceIn keywords

theorem keys_ofListFirst
    (keywords : List Keyword) :
    (ofListFirst keywords).keys =
      (IdSet.ofList (keywords.map Keyword.key)).ids :=
  map_key_foldl map_key_keepIn keywords

theorem ascending_ofList
    (keywords : List Keyword) :
    (ofList keywords).Ascending := by
  rw [Ascending, keys_ofList]
  exact (IdSet.ofList _).ascending

theorem ascending_ofListFirst
    (keywords : List Keyword) :
    (ofListFirst keywords).Ascending := by
  rw [Ascending, keys_ofListFirst]
  exact (IdSet.ofList _).ascending

/-- Behind smaller members a keyword is put at the end. -/
theorem replaceIn_eq_append
    (last : ∀ member ∈ members, member.key < keyword.key) :
    replaceIn keyword members = members ++ [keyword] := by
  induction members with
  | nil => rfl
  | cons first rest inductionHypothesis =>
      obtain ⟨lessFirst, lessOthers⟩ := List.forall_mem_cons.mp last
      rw [replaceIn, if_neg (String.lt_asymm lessFirst),
        if_neg (Std.ne_of_lt lessFirst).symm, inductionHypothesis lessOthers,
        List.cons_append]

/-- Ascending members are the set of their list. -/
theorem ofList_members
    {set : KeywordSet}
    (ascending : set.Ascending) :
    ofList set.members = set := by
  obtain ⟨members⟩ := set
  have onward : ∀ before after : List Keyword,
      ((before ++ after).map Keyword.key).Pairwise (· < ·) →
        after.foldl (fun members keyword => replaceIn keyword members) before =
          before ++ after := by
    intro before after
    induction after generalizing before with
    | nil => exact fun _ => (List.append_nil before).symm
    | cons keyword rest inductionHypothesis =>
        intro ascends
        have less : ∀ member ∈ before, member.key < keyword.key := by
          rw [List.map_append, List.pairwise_append] at ascends
          exact fun member isBefore =>
              ascends.2.2 _ (List.mem_map_of_mem isBefore) _
            (List.mem_map_of_mem List.mem_cons_self)
        rw [List.foldl_cons, replaceIn_eq_append less,
          inductionHypothesis (before ++ [keyword]) (by simpa using ascends),
            List.append_assoc,
          List.singleton_append]
  exact congrArg KeywordSet.mk (onward [] members ascending)

/-- The sets that can be made of lists of keywords are those whose members
ascend. -/
theorem ascending_iff
    {set : KeywordSet} :
    set.Ascending ↔ ∃ keywords, ofList keywords = set := by
  constructor
  · exact fun ascending => ⟨set.members, ofList_members ascending⟩
  · rintro ⟨keywords, rfl⟩
    exact ascending_ofList keywords

end Placing

/-! ## Searching a set -/

section Searching

variable {set : KeywordSet}

/-- In ascending members the search that ends early finds what there is. -/
theorem hasIn_iff
    {members : List Keyword}
    (ascending : (members.map Keyword.key).Pairwise (· < ·))
    (key : String) :
    hasIn key members = true ↔ key ∈ members.map Keyword.key := by
  induction members with
  | nil => simp [hasIn]
  | cons first rest inductionHypothesis =>
      rw [List.map_cons] at ascending ⊢
      obtain ⟨least, restAscending⟩ := List.pairwise_cons.mp ascending
      rw [hasIn, List.mem_cons]
      split
      · rename_i less
        rw [inductionHypothesis restAscending]
        exact (or_iff_right (Std.ne_of_lt less).symm).symm
      · rename_i notLess
        have absent : key ∉ rest.map Keyword.key :=
          fun isLater => notLess (least key isLater)
        rw [beq_iff_eq, or_iff_left absent, eq_comm]

theorem has_iff
    (ascending : set.Ascending)
    (keyword : Keyword) :
    set.has keyword = true ↔ keyword.key ∈ set.keys :=
  hasIn_iff ascending keyword.key

theorem contains_iff
    (name : String) :
    set.contains name = true ↔ Text.asciiLowercase name ∈ set.keys := by
  rw [contains, List.any_eq_true, keys, List.mem_map]
  simp only [Text.sameAscii_iff, Keyword.key]

/-- Both searches find the same keywords, in any letter case. -/
theorem contains_eq_has
    (ascending : set.Ascending)
    {keyword : Keyword}
    {name : String}
    (same : Text.sameAscii keyword.name name = true) :
    set.contains name = set.has keyword := by
  rw [Bool.eq_iff_iff, contains_iff, has_iff ascending,
    ← Text.sameAscii_iff.mp same]
  rfl

/-- A set of names has the keywords that are named, in any letter case. -/
theorem mem_keys_iff_of_ofNames
    {names : List String}
    (made : ofNames names = .ok set)
    {key : String} :
    key ∈ set.keys ↔ ∃ name ∈ names, Text.asciiLowercase name = key := by
  obtain ⟨keywords, named, made⟩ := Outcome.exists_of_bind_eq_ok made
  cases made
  rw [keys_ofList, ← IdSet.mem_def, IdSet.mem_ofList, List.mem_map]
  constructor
  · rintro ⟨keyword, isKeyword, rfl⟩
    obtain ⟨name, isName, given⟩ := (Outcome.mem_results_iff named).mp isKeyword
    split at given
    · rename_i found
      cases given
      exact ⟨name, isName,
        congrArg Text.asciiLowercase
        (Keyword.ofName?_eq_some_iff.mp found).symm⟩
    · cases given
  · rintro ⟨name, isName, rfl⟩
    obtain ⟨keyword, given⟩ := Outcome.exists_of_mapM_eq_ok named name isName
    refine ⟨keyword,
      (Outcome.mem_results_iff named).mpr ⟨name, isName, given⟩, ?_⟩
    split at given
    · rename_i found
      cases given
      exact congrArg Text.asciiLowercase (Keyword.ofName?_eq_some_iff.mp found)
    · cases given

theorem ascending_of_ofNames
    {names : List String}
    (made : ofNames names = .ok set) :
    set.Ascending := by
  obtain ⟨keywords, -, made⟩ := Outcome.exists_of_bind_eq_ok made
  cases made
  exact ascending_ofList keywords

/-- A set holds some names once each, in order, and is searched alike in both
ways. -/
structure Collects (set : KeywordSet) (names : List String) : Prop where
  /-- The names of the members ascend in lower case. -/
  ascending : set.names.Pairwise fun left right =>
    Text.asciiLowercase left < Text.asciiLowercase right
  /-- No two members are the same in some letter case. -/
  distinct : set.names.Pairwise fun left right =>
    Text.sameAscii left right = false
  /-- The search that ends early finds what is named, in any letter case. -/
  has_iff (keyword : Keyword) :
    set.has keyword = true ↔ ∃ name ∈ names,
        Text.sameAscii name keyword.name = true
  /-- The search of all members finds what is named, in any letter case. -/
  contains_iff (keyword : Keyword) :
    set.contains keyword.name = true ↔ ∃ name ∈ names,
        Text.sameAscii name keyword.name = true

theorem collects_of_ofNames
    {names : List String}
    (made : ofNames names = .ok set) :
    set.Collects names := by
  have ascending := ascending_of_ofNames made
  have namesAscend : set.names.Pairwise fun left right =>
      Text.asciiLowercase left < Text.asciiLowercase right := by
    rw [Ascending, keys, List.pairwise_map] at ascending
    exact List.pairwise_map.mpr ascending
  refine ⟨namesAscend, namesAscend.imp fun less => ?_, fun keyword => ?_,
    fun keyword => ?_⟩
  · rw [← Bool.not_eq_true, Text.sameAscii_iff]
    exact Std.ne_of_lt less
  · simp only [KeywordSet.has_iff ascending, mem_keys_iff_of_ofNames made,
      Text.sameAscii_iff, Keyword.key]
  · simp only [KeywordSet.contains_iff, mem_keys_iff_of_ofNames made,
      Text.sameAscii_iff]

end Searching

end KeywordSet
end MailSearch
