import MailSearch.Json.Decode
import MailSearch.Storage.FileError

/-!
# Errors

Why a query gives no answer.  A request that is not valid is rejected with a
cause; a collaborator that cannot answer names its own failure; and files are
unreadable or hold something else than they should.
-/

namespace MailSearch
namespace Query

/-- What a value in a filter must be. -/
inductive Expected where
  | boolean
  | text
  | size
  | dateText
  | date
  | mailboxes
  deriving DecidableEq, Repr

/-- How a message names what is expected. -/
def Expected.describe : Expected -> String
  | .boolean => "a boolean"
  | .text => "a string"
  | .size => "a non-negative integer"
  | .dateText => "a UTC date string"
  | .date => "a UTC date string (RFC 3339)"
  | .mailboxes => "a list of mailbox ids"

/-- Why a request is not valid. -/
inductive Invalid where
  /-- A name is not the name of a keyword. -/
  | keyword (name : String)
  /-- A property of a condition has the wrong kind of value. -/
  | wrongType (property : String) (expected : Expected)
  /-- A condition has a property that is not known. -/
  | unknownCondition (property : String)
  /-- A header condition is not a pair of texts. -/
  | headerPair
  /-- A filter is not an object. -/
  | filterShape
  /-- Operators nest too deeply. -/
  | depth (limit : Nat)
  /-- An operator is not named by a text. -/
  | operatorShape
  /-- An operator is not known. -/
  | unknownOperator (name : String)
  /-- The conditions of an operator are not a list. -/
  | conditionsShape
  /-- An operator has a property that is not known. -/
  | unknownOperatorProperty (property : String)
  /-- An operator has no conditions. -/
  | noConditions
  /-- A sort has no key. -/
  | emptySort
  /-- A sort key is not known. -/
  | sortKey (text : String)
  /-- The direction of a sort key is not known. -/
  | sortDirection (text : String)
  /-- A position or limit is out of range. -/
  | bound (name : String)
  /-- A property of messages is not known. -/
  | unknownProperty (name : String)
  /-- The request does not have the layout of a request. -/
  | layout (error : Json.DecodeError)

/-- The wording of a rejection. -/
def Invalid.message : Invalid -> String
  | .keyword name => "Invalid keyword: '" ++ name ++ "'"
  | .wrongType property expected =>
      "'" ++ property ++ "' must be " ++ expected.describe
  | .unknownCondition property =>
      "Unknown filter condition property '" ++ property ++ "'"
  | .headerPair => "'header' must be a list of exactly 2 strings [name, value]"
  | .filterShape => "A filter must be a JSON object"
  | .depth limit =>
      "Filter depth is higher than maximum allowed value " ++ toString limit
  | .operatorShape => "'operator' must be a string"
  | .unknownOperator name =>
      "Unknown filter operator '" ++ name ++ "', expected AND, OR or NOT"
  | .conditionsShape => "'conditions' must be a list"
  | .unknownOperatorProperty property =>
      "Unknown filter operator property '" ++ property ++ "'"
  | .noConditions => "'conditions' must be a non-empty list"
  | .emptySort => "Sort must contain at least one key"
  | .sortKey text => "Unsupported sort '" ++ text ++ "'"
  | .sortDirection text =>
      "Unsupported sort direction in '" ++ text ++ "', expected asc or desc"
  | .bound name => name ++ ": value should be positive and less than 2^53"
  | .unknownProperty name => "Unknown property '" ++ name ++ "'"
  | .layout error => "Invalid request: " ++ error.message

/-- The kinds of errors that a client is told. -/
inductive ErrorKind where
  | invalidArguments
  | cancelled
  | serverFail
  deriving DecidableEq, Repr

/-- How a client is told the kind of an error. -/
def ErrorKind.name : ErrorKind -> String
  | .invalidArguments => "invalidArguments"
  | .cancelled => "cancelled"
  | .serverFail => "serverFail"

/-- Why a file is no snapshot, or a message in it no message. -/
inductive Malformed where
  /-- The file is not JSON. -/
  | notJson
  /-- The file does not have the layout of a snapshot. -/
  | layout (error : Json.DecodeError)
  /-- Two messages have the same identifier. -/
  | duplicateMessage (id : String)
  /-- A raw message is empty. -/
  | emptyMessage

/-- The wording of the reason. -/
def Malformed.message : Malformed -> String
  | .notJson => "malformed JSON"
  | .layout error => error.message
  | .duplicateMessage id => "duplicate message id '" ++ id ++ "'"
  | .emptyMessage => "Failed to parse message"

/-- Why there is no answer. -/
inductive Error where
  /-- The request is not valid. -/
  | invalidArguments (cause : Invalid)
  /-- The text index cannot answer. -/
  | searchUnavailable (reason : String)
  /-- The visible mailboxes cannot be found out. -/
  | visibilityUnavailable (reason : String)
  /-- The messages cannot be listed. -/
  | storeUnavailable (reason : String)
  /-- The caller gave the query up. -/
  | cancelled
  /-- A file cannot be read. -/
  | unreadable (path : String) (cause : Storage.FileError)
  /-- A file does not hold what it should. -/
  | malformed (path : String) (cause : Malformed)
  /-- A raw message outside a file is empty. -/
  | emptyMessage

namespace Error

/-- The wording of an error. -/
def message : Error -> String
  | .invalidArguments cause => cause.message
  | .searchUnavailable reason => "Search index unavailable: " ++ reason
  | .visibilityUnavailable reason => "Visible mailboxes unavailable: " ++ reason
  | .storeUnavailable reason => "Message store unavailable: " ++ reason
  | .cancelled => "Query cancelled by caller"
  | .unreadable path cause =>
      "I/O error reading '" ++ path ++ "': " ++ cause.message
  | .malformed path cause =>
      "Invalid snapshot '" ++ path ++ "': " ++ cause.message
  | .emptyMessage => "MIME decoding error: " ++ Malformed.emptyMessage.message

/-- The kind of an error. -/
def kind : Error -> ErrorKind
  | .invalidArguments _ => .invalidArguments
  | .cancelled => .cancelled
  | .searchUnavailable _ => .serverFail
  | .visibilityUnavailable _ => .serverFail
  | .storeUnavailable _ => .serverFail
  | .unreadable _ _ => .serverFail
  | .malformed _ _ => .serverFail
  | .emptyMessage => .serverFail

/-- Whether a collaborator could not answer. -/
def isUnavailable : Error -> Bool
  | .searchUnavailable _ => true
  | .visibilityUnavailable _ => true
  | .storeUnavailable _ => true
  | .invalidArguments _ => false
  | .cancelled => false
  | .unreadable _ _ => false
  | .malformed _ _ => false
  | .emptyMessage => false

end Error
end Query
end MailSearch
