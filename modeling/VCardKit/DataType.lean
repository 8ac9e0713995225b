/-
  The data types that a property value may declare, with the versions that define each.
-/
import VCardKit.Text.Case
import VCardKit.Version

namespace VCardKit

/-- A declared data type of a property value. -/
inductive DataType where
  | url
  | contentId
  | inlineContent
  | binary
  | uri
  | text
  | date
  | time
  | dateTime
  | dateAndOrTime
  | timestamp
  | boolean
  | integer
  | float
  | utcOffset
  | languageTag
  deriving DecidableEq, Repr

namespace DataType

def all : List DataType :=
  [.url, .contentId, .inlineContent, .binary, .uri, .text, .date, .time, .dateTime,
   .dateAndOrTime, .timestamp, .boolean, .integer, .float, .utcOffset, .languageTag]

theorem mem_all (t : DataType) : t ∈ all := by cases t <;> decide

/-- The name that stands in a card. -/
def wireName : DataType → String
  | url => "url"
  | contentId => "content-id"
  | inlineContent => "inline"
  | binary => "binary"
  | uri => "uri"
  | text => "text"
  | date => "date"
  | time => "time"
  | dateTime => "date-time"
  | dateAndOrTime => "date-and-or-time"
  | timestamp => "timestamp"
  | boolean => "boolean"
  | integer => "integer"
  | float => "float"
  | utcOffset => "utc-offset"
  | languageTag => "language-tag"

/-- Whether a version defines the data type. -/
def isSupported : DataType → Version → Bool
  | url, v | contentId, v | inlineContent, v => v == .v2_1
  | binary, v => v == .v3_0
  | dateAndOrTime, v | timestamp, v | languageTag, v => v == .v4_0
  | _, v => v != .v2_1

/-- The data type with the given name; case and blanks around it are ignored, and `cid` is another
name of the content identifier. -/
def ofName? (name : String) : Option DataType :=
  let wanted := Text.lower (Text.strip name)
  if wanted = "cid" then some .contentId else all.find? fun t => t.wireName == wanted

end DataType

end VCardKit
