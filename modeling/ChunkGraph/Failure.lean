import ChunkGraph.Number.Decimal
import ChunkGraph.Text.Quoted
import ChunkGraph.Text.Utf8

/-!
# Failures

Everything that can go wrong in a way a caller sees, as causes. The wording is
in one place, `Failure.message`. Sources that do not parse are not among them:
they simply have no chunks.

Settings keep whatever a document says, so a datum may turn out to be of a type
that cannot be used where it is needed: that is a `Misuse`.

## Main definitions

* `Misuse` — the ways in which a datum cannot be used because of its type.
* `Failure` — the causes.
* `Failure.concernsFiles` — those that come from the file system.
* `Failure.message` — their wording.
-/

namespace ChunkGraph

/-- A way in which a datum cannot be used because of its type. -/
inductive Misuse where
  /-- Data of these two types have no order. -/
  | unordered (relation left right : String)
  /-- Nothing can be looked for in data of the type. -/
  | noMembers (type : String)
  /-- Data of the type have no items. -/
  | noItems (type : String)
  /-- The datum is no list of patterns. -/
  | noPatterns (cited : String)
  /-- The datum is no pattern. -/
  | noPattern (cited : String)
  /-- Data of the type cannot be put behind a text. -/
  | noText (type : String)
  /-- Data of the type cannot say how often something is done. -/
  | noCount (type : String)
  /-- Data of the type have no part of that name. -/
  | noPart (type name : String)
  deriving DecidableEq, Repr, Inhabited

/-- A misuse in words. -/
def Misuse.message : Misuse → String
  | .unordered relation left right =>
      "'" ++ relation ++ "' not supported between instances of '" ++ left ++ "' and '" ++
        right ++ "'"
  | .noMembers type => "argument of type '" ++ type ++ "' is not iterable"
  | .noItems type => "'" ++ type ++ "' object is not iterable"
  | .noPatterns cited => "lines=" ++ cited ++ " is not an iterable."
  | .noPattern cited => "pattern=" ++ cited ++ " is not a string, re.Pattern, or None."
  | .noText type => "can only concatenate str (not \"" ++ type ++ "\") to str"
  | .noCount type => "'" ++ type ++ "' object cannot be interpreted as an integer"
  | .noPart type name => "'" ++ type ++ "' object has no attribute '" ++ name ++ "'"

/-- A fault of an encoding in words. -/
def Text.Utf8.Fault.message : Text.Utf8.Fault → String
  | .badStart => "invalid start byte"
  | .badContinuation => "invalid continuation byte"
  | .unexpectedEnd => "unexpected end of data"

/-- A part of a point in time that is out of range. -/
inductive TimeFault where
  | year
  | month
  | day
  | hour
  | minute
  | second
  deriving DecidableEq, Repr, Inhabited

/-- A fault of a point in time in words. -/
def TimeFault.message : TimeFault → String
  | .year => "year 0 is out of range"
  | .month => "month must be in 1..12"
  | .day => "day is out of range for month"
  | .hour => "hour must be in 0..23"
  | .minute => "minute must be in 0..59"
  | .second => "second must be in 0..59"

/-- A cause of failure. -/
inductive Failure where
  /-- No way of counting tokens has that name. -/
  | unknownTokenizer (name : String)
  /-- No front end is of that kind. -/
  | unknownFrontEnd (kind : String)
  /-- A line range is not of the form of one. -/
  | malformedRange (spec : String)
  /-- The numbers of a line range are none. -/
  | malformedLines (spec : String)
  /-- No output format has that name. -/
  | unknownFormat (name : String)
  /-- A text is no integer in a base. -/
  | notAnInteger (base : Nat) (text : String)
  /-- An integer has too many digits to be read. -/
  | integerTooLong (digits : Nat)
  /-- An integer has too many digits to be written. -/
  | integerTooLarge
  /-- A text is no number. -/
  | notANumber (text : String)
  /-- There is nothing where the digits of a number are to be. -/
  | emptyNumber
  /-- A text is no word for yes or no. -/
  | notATruth (text : String)
  /-- A point in time is none. -/
  | notATime (fault : TimeFault)
  /-- No character has the code of an escape. -/
  | codeOutOfRange
  /-- The code of an escape is too large for a code. -/
  | codeTooLarge
  /-- A table of languages is not well formed. -/
  | malformedLanguages
  /-- A table of languages is not a table, but of that type. -/
  | languagesNotATable (type : String)
  /-- A settings file has an extension that is not read. -/
  | unsupportedSettings (extension : String)
  /-- A section of the settings has an entry that it cannot have. -/
  | invalidSection (name reason : String)
  /-- A setting is out of range. -/
  | outOfRange (reason : String)
  /-- The settings file is missing. -/
  | settingsNotFound (path : String)
  /-- There is no such file. -/
  | fileNotFound (path : String)
  /-- There is a file where a directory is to be made. -/
  | fileExists (path : String)
  /-- The path is a directory where a file is needed. -/
  | isDirectory (path : String)
  /-- A segment of the path is not a directory. -/
  | notDirectory (path : String)
  /-- A name in the path is longer than names may be. -/
  | nameTooLong (path : String)
  /-- A path holds a zero character. -/
  | zeroInPath
  /-- The path to be scanned is not a directory. -/
  | noDirectoryToScan (path : String)
  /-- The bytes of a file are no text. -/
  | notText (found : Text.Utf8.BadBytes)
  /-- A JSON document is not well formed. -/
  | malformedJson
  /-- A YAML document is not well formed. -/
  | malformedYaml
  /-- Data are nested deeper than can be followed. -/
  | nestedTooDeep
  /-- A pattern for paths is not well formed. -/
  | malformedPattern (pattern : String)
  /-- A set of characters in a pattern has a range that ends before it begins. -/
  | emptyCharacterRange (first last : Char) (place : String)
  /-- There is nothing left to be dropped. -/
  | nothingToDrop
  /-- A tag closes nothing. -/
  | unmatchedTag (tag : String)
  /-- The arguments of a tag cannot be read. -/
  | malformedTag (reason : String)
  /-- A datum cannot be used because of its type. -/
  | misuse (m : Misuse)
  deriving DecidableEq, Repr, Inhabited

/-- The failure comes from the files and not from what is in them. -/
def Failure.concernsFiles : Failure → Bool
  | .settingsNotFound _ | .fileNotFound _ | .fileExists _ | .isDirectory _ | .notDirectory _
  | .nameTooLong _ | .noDirectoryToScan _ => true
  | _ => false

/-- The most characters of a cited text that is no integer. -/
def citedLength : Nat := 200

/-- Bytes that are no text, in words. -/
def citedBytes (found : Text.Utf8.BadBytes) : String :=
  match found.bytes with
  | [byte] =>
      "byte 0x" ++ String.ofList (Text.hexDigits 2 byte.toNat) ++ " in position " ++
        Number.integerText found.position
  | bytes =>
      "bytes in position " ++ Number.integerText found.position ++ "-" ++
        Number.integerText (found.position + bytes.length - 1)

/-- A cause in words. -/
def Failure.message : Failure → String
  | .unknownTokenizer name => "Unknown tokenizer: " ++ name
  | .unknownFrontEnd kind => "Unknown front-end kind: " ++ kind
  | .malformedRange spec => "Invalid range '" ++ spec ++ "', expected FILE:START-END"
  | .malformedLines spec => "Invalid line numbers in '" ++ spec ++ "'"
  | .unknownFormat name =>
      "Unknown output format '" ++ name ++ "', expected one of json, yaml, table"
  | .notAnInteger base text =>
      "invalid literal for int() with base " ++ Number.integerText base ++ ": " ++
        String.ofList ((Text.quote text).toList.take citedLength)
  | .integerTooLong digits =>
      "Exceeds the limit (4300 digits) for integer string conversion: value has " ++
        Number.integerText digits ++
        " digits; use sys.set_int_max_str_digits() to increase the limit"
  | .integerTooLarge =>
      "Exceeds the limit (4300 digits) for integer string conversion; " ++
        "use sys.set_int_max_str_digits() to increase the limit"
  | .notANumber text => "could not convert string to float: " ++ Text.quote text
  | .emptyNumber => "string index out of range"
  | .notATruth text => Text.quote text
  | .notATime fault => fault.message
  | .codeOutOfRange => "chr() arg not in range(0x110000)"
  | .codeTooLarge => "Python int too large to convert to C int"
  | .malformedLanguages => "Invalid YAML in languages config"
  | .languagesNotATable type =>
      "Invalid languages config format: expected dict, got <class '" ++ type ++ "'>"
  | .unsupportedSettings extension => "Unsupported config file format: " ++ extension
  | .invalidSection name reason => "Invalid '" ++ name ++ "' section: " ++ reason
  | .outOfRange reason => reason
  | .settingsNotFound path => "Configuration file not found: " ++ path
  | .fileNotFound path => "[Errno 2] No such file or directory: " ++ Text.quote path
  | .fileExists path => "[Errno 17] File exists: " ++ Text.quote path
  | .isDirectory path => "[Errno 21] Is a directory: " ++ Text.quote path
  | .notDirectory path => "[Errno 20] Not a directory: " ++ Text.quote path
  | .nameTooLong path => "[Errno 36] File name too long: " ++ Text.quote path
  | .zeroInPath => "embedded null byte"
  | .noDirectoryToScan path => "Not a directory: " ++ path
  | .notText found =>
      "'utf-8' codec can't decode " ++ citedBytes found ++ ": " ++ found.fault.message
  | .malformedJson => "Expecting value"
  | .malformedYaml => "malformed document"
  | .nestedTooDeep => "maximum recursion depth exceeded"
  | .malformedPattern pattern => "Invalid git pattern: " ++ Text.quote pattern
  | .emptyCharacterRange first last place =>
      "bad character range " ++ String.ofList [first, '-', last] ++ " at position " ++ place
  | .nothingToDrop => ""
  | .unmatchedTag tag => "closing tag '[" ++ tag ++ "]' doesn't match any open tag"
  | .malformedTag reason => reason
  | .misuse m => m.message

end ChunkGraph
