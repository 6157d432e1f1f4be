import QueryBook.Error.Report
import QueryBook.Files.Tree
import QueryBook.Text.Utf8

set_option autoImplicit false

namespace QueryBook

inductive Error where
  | unknownTag (tag : String)
  | noFile (tag extension : String)
  | unterminated (tag file : String)
  | selectMode (mode sql : String) (tag : Option String)
  | malformedInclude (block : String) (tag : Option String)
  -- The chain of includes, ending with a tag that is on it already.
  | includeCycle (chain : List String)
  -- The chain of includes, one longer than the settings allow.
  | includeDepth (limit : Nat) (chain : List String)
  | missingValue (key : String)
  | noFirstElement (key : String) (found : Shape)
  | notScalar (key : String) (found : Shape)
  | nullText (key : String)
  | storeScalar (key : String) (found : Shape)
  | storeElement (key : String) (found : Shape)
  | storeFields (key : String) (found : Shape)
  | storeElementFields (key : String) (found : Shape)
  | storeRows (key : String) (found : Shape)
  | driver (name text : String) (sql : Option String)
  | noResult (sql : Option String)
  | multipleResults (sql : Option String)
  | plain (text : String)
  | unknownSettings (names : List String)
  | unknownSettingStyle (name : String)
  | includeLimit
  | disconnected
  | noMarkerStyle (module : String) (declared : Option String)
  | notAStyle (name : String)
  | segmentCount
  | valueCount (expected given : Nat)
  | unknownLevel (name : String)
  | undecodable (fault : Text.Utf8.Fault)
  | unreadable (path : Path) (fault : SystemFault) (tag : Option String)
  | system (fault : SystemFault)
  | analysis (name text : String)
  | tooDeep
  -- A style is closed that is not open.
  | notOpen (style : String)
  | nothingToClose
  | uncallable (parameters : String)
  -- A driver's own error where nothing wraps it.
  | foreign (name text : String)
  deriving DecidableEq, Repr

namespace Error

-- A template error that does not know its tag yet is put down to `tag`.
def blame (tag : String) : Error → Error
  | .selectMode mode sql none => .selectMode mode sql (some tag)
  | .malformedInclude block none => .malformedInclude block (some tag)
  | .unreadable path fault none => .unreadable path fault (some tag)
  | other => other

def report : Error → Report
  | .unknownTag tag => .unknownTag tag none
  | .noFile tag extension =>
    .unknownTag tag (some ("Unable to read ." ++ extension ++ " file for tag " ++ Text.quoted tag))
  | .unterminated tag file =>
    .compile .compile
      ("Tag " ++ Text.quoted tag ++ " in " ++ file ++ " is missing its ';;' terminator") (some tag)
  | .selectMode mode sql tag => .selectMode mode sql tag
  | .malformedInclude block tag =>
    .compile .inclusion ("Malformed include directive: " ++ Text.quoted block) tag
  | .includeCycle chain => .includeCycle chain none
  | .includeDepth limit chain =>
    .includeCycle chain
      (some ("Include depth exceeds " ++ toString limit ++ ": " ++ Report.path chain))
  | .missingValue key => .data .resolution ("Missing value for " ++ Text.quoted key) (some key)
  | .noFirstElement key found =>
    .data .resolution
      ("Expected a non-empty sequence for " ++ Text.quoted key ++ ", found " ++ found.name)
      (some key)
  | .notScalar key found =>
    .data .resolution ("Expected scalar for " ++ Text.quoted key ++ ", found " ++ found.name)
      (some key)
  | .nullText key => .data .resolution ("Cannot substitute NULL for $" ++ key) (some key)
  | .storeScalar key found =>
    .data .dataShape ("Cannot store scalar " ++ Text.quoted key ++ ": it holds a " ++ found.name)
      (some key)
  | .storeElement key found =>
    .data .dataShape
      ("Cannot store " ++ Text.quoted key ++ " at element 0: it holds a " ++ found.name) (some key)
  | .storeFields key found =>
    .data .dataShape
      ("Cannot store fields under " ++ Text.quoted key ++ ": it holds a " ++ found.name) (some key)
  | .storeElementFields key found =>
    .data .dataShape
      ("Cannot store fields under " ++ Text.quoted key ++ "[0]: it holds a " ++ found.name)
      (some key)
  | .storeRows key found =>
    .data .dataShape
      ("Cannot store rows under " ++ Text.quoted key ++ ": it holds a " ++ found.name) (some key)
  | .driver name text sql => .driver (if text = "" then name else text) sql
  | .noResult sql => .noResult sql
  | .multipleResults sql => .multipleResults sql
  | .plain text => .plain .library text
  | .unknownSettings names =>
    .plain .configuration ("Undefined Librarian parameter " ++ String.intercalate ", " names)
  | .unknownSettingStyle name =>
    .plain .configuration ("Unknown parameter style " ++ Text.quoted name)
  | .includeLimit => .plain .configuration "max_include_depth must be at least 1"
  | .disconnected => .plain .configuration "Librarian is disconnected"
  | .noMarkerStyle module declared =>
    .plain .configuration
      ("Cannot derive a positional parameter style for " ++ Text.quoted module ++ " (paramstyle=" ++
        (Report.optional declared).listing ++ "); pass parameter_style explicitly")
  | .notAStyle name =>
    .plain (.outside "ValueError") (Text.quoted name ++ " is not a valid ParameterStyle")
  | .segmentCount =>
    .plain (.outside "ValueError") "segments must surround every direct substitution"
  | .valueCount expected given =>
    .plain (.outside "ValueError")
      ("expected " ++ toString expected ++ " substitution values, got " ++ toString given)
  | .unknownLevel name => .plain (.outside "AttributeError") name
  | .undecodable fault => .plain (.outside "UnicodeDecodeError") fault.message
  | .unreadable path fault tag =>
    .compile .compile ("Unable to read " ++ path.text ++ ": " ++ fault.text) tag
  | .system fault => .plain (.outside fault.name) fault.text
  | .analysis name text => .plain (.outside name) text
  | .tooDeep => .plain (.outside "RecursionError") "maximum recursion depth exceeded"
  | .notOpen style =>
    .plain (.outside "MarkupError") ("closing tag '[/" ++ style ++ "]' doesn't match any open tag")
  | .nothingToClose => .plain (.outside "MarkupError") "closing tag '[/]' has nothing to close"
  | .uncallable parameters =>
    .plain (.outside "MarkupError") ("error parsing " ++ Text.quoted parameters)
  | .foreign name text => .plain (.outside name) text

def kind (e : Error) : ErrorKind :=
  e.report.kind

def isLibrary (e : Error) : Bool :=
  e.kind.isLibrary

def message (e : Error) : String :=
  match e.kind with
  | .outside _ => e.report.detail
  | _ => e.report.message

theorem kind_blame (tag : String) (e : Error) : (e.blame tag).kind = e.kind := by
  fun_cases blame tag e <;> rfl

end Error

inductive Fault where
  | foreign (name text : String)
  | library (e : Error) (isLibrary : e.isLibrary = true)
  deriving DecidableEq

namespace Error

def ofFault : Fault → Error
  | .foreign name text => .foreign name text
  | .library e _ => e

-- A driver's own errors become errors of the statement; those of the library stay what they are.
def wrapFault (sql : Option String) : Fault → Error
  | .foreign name text => .driver name text sql
  | .library e _ => e

end Error

end QueryBook
