import MailSearch.Text.LetterCase

/-!
# Keywords

A keyword is a short word that marks a message.  Keywords that differ in the
case of ASCII letters only are the same keyword, and a set of keywords lists its
members in the order of their lower-case names.
-/

namespace MailSearch

namespace Keyword

/-- The visible ASCII characters that no keyword may contain. -/
def forbidden : List Char :=
  ['(', ')', '{', ']', '%', '*', '"', '\\']

/-- Whether a character may stand in a keyword. -/
def isKeywordChar (c : Char) : Bool :=
  0x21 ≤ c.toNat && c.toNat ≤ 0x7E && !forbidden.contains c

/-- Whether a text is the name of a keyword: 1 to 255 permitted characters. -/
def isName (name : String) : Bool :=
  name ≠ "" && name.length ≤ 255 && name.toList.all isKeywordChar

end Keyword

/-- A mark on a message. -/
structure Keyword where
  /-- The name as it was written. -/
  name : String
  /-- The name is well formed. -/
  valid : Keyword.isName name = true
  deriving DecidableEq

namespace Keyword

/-- The keyword with a name, if the name is well formed. -/
def ofName? (name : String) : Option Keyword :=
  if valid : isName name = true then some ⟨name, valid⟩ else none

/-- The name in lower case, by which keywords are told apart. -/
def key (keyword : Keyword) : String :=
  Text.asciiLowercase keyword.name

/-- Whether two keywords are the same. -/
def same (left right : Keyword) : Bool :=
  left.key == right.key

/-- The order of keywords. -/
def compare (left right : Keyword) : Ordering :=
  Ord.compare left.key right.key

/-- The marks of a session, which no filter looks at. -/
def transient : List String :=
  ["$Deleted", "$Recent"]

/-- Whether filters pass over the keyword. -/
def isTransient (keyword : Keyword) : Bool :=
  transient.any fun name => Text.sameAscii name keyword.name

end Keyword

/-- The keywords of a message, in ascending order of their lower-case names. -/
structure KeywordSet where
  /-- The members. -/
  members : List Keyword
  deriving DecidableEq

namespace KeywordSet

/-- The set without members. -/
def empty : KeywordSet :=
  ⟨[]⟩

/-- Put a keyword at its place, where it takes the place of another spelling. -/
def replaceIn (keyword : Keyword) : List Keyword -> List Keyword
  | [] => [keyword]
  | first :: rest =>
      if keyword.key < first.key then keyword :: first :: rest
      else if keyword.key = first.key then keyword :: rest
      else first :: replaceIn keyword rest

/-- Put a keyword at its place, unless the set has it in some spelling. -/
def keepIn (keyword : Keyword) : List Keyword -> List Keyword
  | [] => [keyword]
  | first :: rest =>
      if keyword.key < first.key then keyword :: first :: rest
      else if keyword.key = first.key then first :: rest
      else first :: keepIn keyword rest

/-- The set of a list of keywords, each in its last spelling. -/
def ofList (keywords : List Keyword) : KeywordSet :=
  ⟨keywords.foldl (fun members keyword => replaceIn keyword members) []⟩

/-- The set of a list of keywords, each in its first spelling. -/
def ofListFirst (keywords : List Keyword) : KeywordSet :=
  ⟨keywords.foldl (fun members keyword => keepIn keyword members) []⟩

/-- The set of the keywords with some names, each in its last spelling, or the
first bad name. -/
def ofNames (names : List String) : Except String KeywordSet := do
  let keywords ← names.mapM fun name =>
    match Keyword.ofName? name with
    | some keyword => Except.ok keyword
    | none => Except.error name
  return ofList keywords

/-- Whether the set has a member with a name, in any letter case. -/
def contains (set : KeywordSet) (name : String) : Bool :=
  set.members.any fun keyword => Text.sameAscii keyword.name name

/-- Whether the set has a keyword; the search ends at the first member not
before it. -/
def hasIn (key : String) : List Keyword -> Bool
  | [] => false
  | first :: rest =>
      if first.key < key then hasIn key rest else first.key == key

/-- Whether the set has a keyword. -/
def has (set : KeywordSet) (keyword : Keyword) : Bool :=
  hasIn keyword.key set.members

/-- The names of the members, in order. -/
def names (set : KeywordSet) : List String :=
  set.members.map Keyword.name

end KeywordSet
end MailSearch
