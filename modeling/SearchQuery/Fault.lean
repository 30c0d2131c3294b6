-- Everything that can go wrong, by cause, and the words for it.
import SearchQuery.Text.Quoted

namespace SearchQuery

/-- What is wrong with one part of checked data. -/
inductive Flaw where
  | missing | modelType | extraForbidden | invalidKey
  | stringType | stringUnicode
  | intType | intParsing | intParsingSize | intFromFloat | finiteNumber
  | floatType | floatParsing | greaterThan
  | boolType | boolParsing
  | dictType | listType | tupleType | tooLong | valueError
  deriving DecidableEq, Repr

/-- The name of a flaw in reports. -/
def Flaw.name : Flaw → String
  | .missing => "missing"
  | .modelType => "model_type"
  | .extraForbidden => "extra_forbidden"
  | .invalidKey => "invalid_key"
  | .stringType => "string_type"
  | .stringUnicode => "string_unicode"
  | .intType => "int_type"
  | .intParsing => "int_parsing"
  | .intParsingSize => "int_parsing_size"
  | .intFromFloat => "int_from_float"
  | .finiteNumber => "finite_number"
  | .floatType => "float_type"
  | .floatParsing => "float_parsing"
  | .greaterThan => "greater_than"
  | .boolType => "bool_type"
  | .boolParsing => "bool_parsing"
  | .dictType => "dict_type"
  | .listType => "list_type"
  | .tupleType => "tuple_type"
  | .tooLong => "too_long"
  | .valueError => "value_error"

/-- A flaw and the way to it from the outermost part inward. -/
structure Issue where
  path : List String
  flaw : Flaw
  deriving DecidableEq, Repr

/-- One issue as `path:flaw`. -/
def Issue.text (i : Issue) : String := ".".intercalate i.path ++ ":" ++ i.flaw.name

/-- A kind of number that a value is turned into. -/
inductive NumberKind where
  | integer | real
  deriving DecidableEq, Repr

/-- What is wrong with a JSON text. -/
inductive JsonProblem where
  | byteOrderMark | valueExpected | keyExpected | colonExpected | commaExpected | extraData
  | unterminatedText | controlCharacter | badEscape | badUnicodeEscape
  deriving DecidableEq, Repr

/-- The words for what is wrong with a JSON text. -/
def JsonProblem.text : JsonProblem → String
  | .byteOrderMark => "Unexpected UTF-8 BOM (decode using utf-8-sig)"
  | .valueExpected => "Expecting value"
  | .keyExpected => "Expecting property name enclosed in double quotes"
  | .colonExpected => "Expecting ':' delimiter"
  | .commaExpected => "Expecting ',' delimiter"
  | .extraData => "Extra data"
  | .unterminatedText => "Unterminated string starting at"
  | .controlCharacter => "Invalid control character at"
  | .badEscape => "Invalid \\escape"
  | .badUnicodeEscape => "Invalid \\uXXXX escape"

/-- Why values cannot be put into the places of a message. -/
inductive Misfit where
  | tooFewValues | valuesLeft | brokenPlace | brokenKey | mapExpected
  /-- A letter that stands for no form, and its place in the message. -/
  | unknownForm (letter : Char) (place : Nat)
  /-- A width or a number of digits that is no whole number. -/
  | sizeExpected
  | widthTooBig | digitsTooMany
  /-- A width, or a number of digits, from the values that is beyond all bounds. -/
  | sizeOutOfRange (type : String)
  /-- A value of a type that is no number of the kind that the form asks for. -/
  | numberExpected (form : Char) (kind type : String)
  | realExpected (type : String)
  | characterExpected | characterOutOfRange
  deriving DecidableEq, Repr

/-- The words for a misfit. -/
def Misfit.text : Misfit → String
  | .tooFewValues => "not enough arguments for format string"
  | .valuesLeft => "not all arguments converted during string formatting"
  | .brokenPlace => "incomplete format"
  | .brokenKey => "incomplete format key"
  | .mapExpected => "format requires a mapping"
  | .unknownForm letter place =>
    let n := letter.toNat
    let shown := if 31 ≤ n && n ≤ 126 then letter else '?'
    "unsupported format character '" ++ String.singleton shown ++ "' (0x" ++
      String.ofList (Nat.toDigits 16 n) ++ ") at index " ++ toString place
  | .sizeExpected => "* wants int"
  | .widthTooBig => "width too big"
  | .digitsTooMany => "precision too big"
  | .sizeOutOfRange type => "Python int too large to convert to C " ++ type
  | .numberExpected form kind type =>
    "%" ++ String.singleton form ++ " format: " ++ kind ++ " is required, not " ++ type
  | .realExpected type => "must be real number, not " ++ type
  | .characterExpected => "%c requires int or char"
  | .characterOutOfRange => "%c arg not in range(0x110000)"

/-- What holds other values. -/
inductive Nesting where
  | list | map
  deriving DecidableEq, Repr

/-- How far reading a YAML text had come when it failed. -/
inductive YamlStage where
  /-- A character cannot be in a text. -/
  | characters
  /-- The characters make no words. -/
  | words
  /-- The words make no tree. -/
  | tree
  /-- There is more than one tree. -/
  | document
  /-- The tree makes no value. -/
  | value
  deriving DecidableEq, Repr

/-- Everything that can go wrong. -/
inductive Fault where
  /-- An operator has the wrong number of operands. -/
  | operandCount (operator : String)
  /-- Search engines cannot tell existence. -/
  | existence
  /-- Search engines have no relations. -/
  | relations
  /-- Checked data has issues. -/
  | invalid (issues : List Issue)
  /-- A word that is no sort direction. -/
  | unknownDirection (word : String)
  | notIterable (type : String)
  | unhashable (type : String)
  /-- A value of this type has no such member. -/
  | noMember (type name : String)
  /-- The element at this place cannot be taken as a pair. -/
  | notASequence (place : Nat)
  /-- The element at this place has this many parts and not two. -/
  | notAPair (place parts : Nat)
  /-- A text that is no whole number in this base; it is given as shown in quotes. -/
  | notAnInteger (base : Nat) (shown : String)
  | notAFloat (shown : String)
  /-- More digits than are read, with their number if it is known. -/
  | tooManyDigits (count : Option Nat)
  | integerOfNan
  | integerOfInfinity
  | noNumber (kind : NumberKind) (type : String)
  /-- A value of this type has no length. -/
  | noLength (type : String)
  /-- The parts of a value of this type cannot be taken one by one. -/
  | noParts (type : String)
  /-- The parts of a value of this kind go by numbers. -/
  | partsByNumber (kind : String)
  /-- There is no such key in a map; it is given as shown inside others. -/
  | noKey (shown : String)
  | tupleTooShort
  /-- Values of these types cannot be put together to a message. -/
  | noMessage (left right : String)
  /-- Values do not fit the places of a message. -/
  | misfit (m : Misfit)
  | tooLargeForFloat
  /-- A number stands for a character, but no character has it. -/
  | noSuchCharacter
  /-- A number stands for a character, and is beyond all bounds. -/
  | characterTooLarge
  /-- A number without any character. -/
  | emptyNumber
  | yearOutOfRange (year : Nat)
  | monthOutOfRange
  | dayOutOfRange
  /-- A part of a time of day that is above its bound. -/
  | clockOutOfRange (part : String) (bound : Nat)
  /-- A clock that is a day or more away from universal time; the span is given as shown. -/
  | offsetOutOfRange (shown : String)
  | keysNotText
  /-- A key of this type has no form in JSON. -/
  | keyNotPlain (type : String)
  /-- An argument is given twice. -/
  | repeatedArgument (function name : String)
  | bytesExpected
  /-- A value of this type is compared with a pattern. -/
  | noTextToMatch (type : String)
  /-- One of several items that are put together is of this type and no bytes. -/
  | itemNotBytes (place : Nat) (type : String)
  /-- Settings are not given as a mapping. -/
  | settingsNotMapping (type : String)
  | unknownAdapter (name : String) (known : List String)
  | notStarted (name : String)
  | noneStarted
  | disabled (name : String)
  | packageMissing
  /-- No client of this engine is open. -/
  | noClient (engine : String)
  /-- The engine could not be reached; the cause is given in words. -/
  | unreachable (engine cause : String)
  /-- A request to the engine failed; `request` is the noun for it. -/
  | requestFailed (engine request cause : String)
  /-- An error of the transport. -/
  | transport (text : String)
  /-- An error that the engine's client raised by itself. -/
  | clientRuntime (text : String)
  /-- A value that the engine's client refused. -/
  | clientValue (text : String)
  /-- A settings field cannot be decoded from this source. -/
  | undecodable (field source : String)
  | fileMissing (path : String)
  | isDirectory (path : String)
  | nameTooLong (path : String)
  /-- A value of this type where a path should be. -/
  | notAPath (type : String)
  /-- What is at a path is of this kind and no directory. -/
  | notADirectory (kind : String)
  | unknownEncoding (name : String)
  /-- A value of this type where the name of an encoding should be. -/
  | encodingNotText (type : String)
  /-- A byte that is no letter, and its place. -/
  | notAscii (byte place : Nat)
  /-- A value of this type where the words of a command line should be. -/
  | wordsNotListed (type : String)
  /-- JSON with too many lists and maps inside each other; the innermost one is told. -/
  | tooDeep (inside : Nesting)
  /-- A text that standard output does not take; what it says is told. -/
  | unprintable (text : String)
  /-- Malformed JSON: what is wrong, and where. -/
  | malformedJson (problem : JsonProblem) (line column place : Nat)
  /-- Malformed YAML, told at length. -/
  | malformedYaml (stage : YamlStage) (text : String)
  | unknownLevel (shown : String)
  | notALevel (shown : String)
  deriving DecidableEq, Repr

/-- Texts in quotes, between brackets. -/
def listed (items : List String) : String :=
  "[" ++ ", ".intercalate (items.map Text.quoted) ++ "]"

/-- The words for a fault. -/
def Fault.message : Fault → String
  | .operandCount operator => "Operator '" ++ operator ++ "' requires exactly one operand."
  | .existence => "exists() is not supported by search queries."
  | .relations => "Relation queries are not supported by search queries."
  | .invalid issues => "; ".intercalate (issues.map Issue.text)
  | .unknownDirection word => Text.quoted word ++ " is not a valid SortDirection"
  | .notIterable type => "'" ++ type ++ "' object is not iterable"
  | .unhashable type => "unhashable type: '" ++ type ++ "'"
  | .noMember type name => "'" ++ type ++ "' object has no attribute '" ++ name ++ "'"
  | .notASequence place =>
    "cannot convert dictionary update sequence element #" ++ toString place ++ " to a sequence"
  | .notAPair place parts =>
    "dictionary update sequence element #" ++ toString place ++ " has length " ++
      toString parts ++ "; 2 is required"
  | .notAnInteger base shown =>
    "invalid literal for int() with base " ++ toString base ++ ": " ++ shown
  | .notAFloat shown => "could not convert string to float: " ++ shown
  | .tooManyDigits count =>
    let value := match count with
      | some n => ": value has " ++ toString n ++ " digits"
      | none => ""
    "Exceeds the limit (4300 digits) for integer string conversion" ++ value ++
      "; use sys.set_int_max_str_digits() to increase the limit"
  | .integerOfNan => "cannot convert float NaN to integer"
  | .integerOfInfinity => "cannot convert float infinity to integer"
  | .noNumber .integer type =>
    "int() argument must be a string, a bytes-like object or a real number, not '" ++ type ++ "'"
  | .noNumber .real type =>
    "float() argument must be a string or a real number, not '" ++ type ++ "'"
  | .noLength type => "object of type '" ++ type ++ "' has no len()"
  | .noParts type => "'" ++ type ++ "' object is not subscriptable"
  | .partsByNumber kind => kind ++ " indices must be integers or slices, not str"
  | .noKey shown => shown
  | .tupleTooShort => "tuple index out of range"
  | .noMessage left right =>
    "unsupported operand type(s) for %=: '" ++ left ++ "' and '" ++ right ++ "'"
  | .misfit m => m.text
  | .tooLargeForFloat => "int too large to convert to float"
  | .noSuchCharacter => "chr() arg not in range(0x110000)"
  | .characterTooLarge => "Python int too large to convert to C int"
  | .emptyNumber => "string index out of range"
  | .yearOutOfRange year => "year " ++ toString year ++ " is out of range"
  | .monthOutOfRange => "month must be in 1..12"
  | .dayOutOfRange => "day is out of range for month"
  | .clockOutOfRange part bound => part ++ " must be in 0.." ++ toString bound
  | .offsetOutOfRange shown =>
    "offset must be a timedelta strictly between -timedelta(hours=24) and " ++
      "timedelta(hours=24), not " ++ shown ++ "."
  | .keysNotText => "keywords must be strings"
  | .keyNotPlain type => "keys must be str, int, float, bool or None, not " ++ type
  | .repeatedArgument function name =>
    function ++ "() got multiple values for argument '" ++ name ++ "'"
  | .bytesExpected => "a bytes-like object is required, not 'str'"
  | .noTextToMatch type => "expected string or bytes-like object, got '" ++ type ++ "'"
  | .itemNotBytes place type =>
    "sequence item " ++ toString place ++ ": expected a bytes-like object, " ++ type ++ " found"
  | .settingsNotMapping type =>
    "searchrecord.config.settings.Settings() argument after ** must be a mapping, not " ++ type
  | .unknownAdapter name known =>
    "No adapter registered with name '" ++ name ++ "'. Available adapters: " ++ listed known
  | .notStarted name =>
    "Adapter '" ++ name ++ "' is not initialized. Call initialize_adapter() first."
  | .noneStarted => "No adapters are initialized."
  | .disabled name => "Adapter '" ++ name ++ "' is disabled."
  | .packageMissing =>
    "opensearch-py package is required.  Install with: pip install searchrecord[opensearch]"
  | .noClient engine => engine ++ " client not initialized."
  | .unreachable engine cause => "Failed to connect to " ++ engine ++ ": " ++ cause
  | .requestFailed engine request cause => engine ++ " " ++ request ++ " failed: " ++ cause
  | .transport text | .clientRuntime text | .clientValue text | .unprintable text => text
  | .undecodable field source =>
    "error parsing value for field \"" ++ field ++ "\" from source \"" ++ source ++ "\""
  | .fileMissing path => "Config file not found: " ++ path
  | .isDirectory path => "[Errno 21] Is a directory: " ++ Text.quoted path
  | .nameTooLong path => "[Errno 36] File name too long: " ++ Text.quoted path
  | .notAPath type => "expected str, bytes or os.PathLike object, not " ++ type
  | .notADirectory kind => "secrets_dir must reference a directory, not a " ++ kind
  | .unknownEncoding name => "unknown encoding: " ++ name
  | .encodingNotText type => "open() argument 'encoding' must be str or None, not " ++ type
  | .notAscii byte place =>
    "'ascii' codec can't decode byte 0x" ++ String.ofList (Text.hexText 2 byte) ++
      " in position " ++ toString place ++ ": ordinal not in range(128)"
  | .wordsNotListed type =>
    "cli_parse_args must be a list or tuple of strings, received <class '" ++ type ++ "'>"
  | .tooDeep inside =>
    "maximum recursion depth exceeded while decoding a JSON " ++
      (match inside with
        | .list => "array"
        | .map => "object") ++ " from a unicode string"
  | .malformedJson problem line column place =>
    problem.text ++ ": line " ++ toString line ++ " column " ++ toString column ++
      " (char " ++ toString place ++ ")"
  | .malformedYaml _ text => text
  | .unknownLevel shown => "Unknown level: " ++ shown
  | .notALevel shown => "Level not an integer or a valid string: " ++ shown

end SearchQuery
