import QueryBook.Text.Blank
import QueryBook.Value.Text

set_option autoImplicit false

namespace QueryBook

inductive ErrorKind where
  | library
  | configuration
  | compile
  | unknownTag
  | selectMode
  | inclusion
  | includeCycle
  | dataShape
  | resolution
  | driver
  | cardinality
  | noResult
  | multipleResults
  | outside (name : String)
  deriving DecidableEq, Repr

namespace ErrorKind

def name : ErrorKind → String
  | .library => "LibrarianError"
  | .configuration => "ImproperConfigurationError"
  | .compile => "CompileError"
  | .unknownTag => "TagNotFoundError"
  | .selectMode => "SelectModeError"
  | .inclusion => "IncludeError"
  | .includeCycle => "IncludeCycleError"
  | .dataShape => "ContextStructureError"
  | .resolution => "BindResolutionError"
  | .driver => "DriverError"
  | .cardinality => "CardinalityError"
  | .noResult => "NoResultFoundError"
  | .multipleResults => "MultipleResultsFoundError"
  | .outside name => name

def named : List ErrorKind :=
  [.library, .configuration, .compile, .unknownTag, .selectMode, .inclusion, .includeCycle,
   .dataShape, .resolution, .driver, .cardinality, .noResult, .multipleResults]

def ofName? (name : String) : Option ErrorKind :=
  named.find? (·.name == name)

def lineage : ErrorKind → List ErrorKind
  | .outside _ => []
  | .library => [.library]
  | .unknownTag => [.unknownTag, .compile, .library]
  | .selectMode => [.selectMode, .compile, .library]
  | .inclusion => [.inclusion, .compile, .library]
  | .includeCycle => [.includeCycle, .inclusion, .compile, .library]
  | .resolution => [.resolution, .dataShape, .library]
  | .noResult => [.noResult, .cardinality, .library]
  | .multipleResults => [.multipleResults, .cardinality, .library]
  | kind => [kind, .library]

def isLibrary : ErrorKind → Bool
  | .outside _ => false
  | _ => true

def isCompile (kind : ErrorKind) : Bool :=
  kind.lineage.contains .compile

end ErrorKind

structure Report where
  kind : ErrorKind
  parts : List String
  detail : String
  facts : Fields

namespace Report

def message (r : Report) : String :=
  Text.strip (String.intercalate " " (r.parts ++ [r.detail]))

def listing (r : Report) : String :=
  if r.detail = "" then r.kind.name else r.kind.name ++ " - " ++ r.detail

def optional (s : Option String) : Value :=
  match s with
  | some s => .text s
  | none => .null

-- An error from loose values: empty ones are dropped, and without a detail the first of the others
-- is the detail.
def ofValues (kind : ErrorKind) (values : List Value) (detail : String) : Report :=
  let texts := (values.filter Value.isTruthy).map Value.display
  if detail ≠ "" then ⟨kind, texts, detail, []⟩
  else
    match texts with
    | first :: rest => ⟨kind, rest, first, []⟩
    | [] => ⟨kind, [], "", []⟩

def plain (kind : ErrorKind) (message : String) : Report :=
  ⟨kind, [], message, []⟩

def compile (kind : ErrorKind) (message : String) (tag : Option String) : Report :=
  ⟨kind, [], message, [("tag", optional tag)]⟩

def unknownTag (tag : String) (message : Option String) : Report :=
  let text :=
    match message with
    | some text => if text = "" then "Unable to find tag " ++ Text.quoted tag else text
    | none => "Unable to find tag " ++ Text.quoted tag
  compile .unknownTag text (some tag)

def selectMode (mode sql : String) (tag : Option String) : Report :=
  let text := "Unrecognized select mode " ++ Text.quoted mode ++ " in\n" ++ sql
  ⟨.selectMode, [], text, [("tag", optional tag), ("mode", .text mode), ("sql", .text sql)]⟩

def path (chain : List String) : String :=
  String.intercalate " -> " chain

def includeCycle (chain : List String) (message : Option String) : Report :=
  let text :=
    match message with
    | some text => if text = "" then "Include cycle detected: " ++ path chain else text
    | none => "Include cycle detected: " ++ path chain
  ⟨.includeCycle, [], text,
    [("tag", optional chain.getLast?), ("chain", .list (chain.map Value.text))]⟩

def data (kind : ErrorKind) (message : String) (key : Option String) : Report :=
  ⟨kind, [], message, [("key", optional key)]⟩

def statement (kind : ErrorKind) (message link : String) (sql : Option String) : Report :=
  let text :=
    match sql with
    | some sql => if sql = "" then message else message ++ link ++ sql
    | none => message
  ⟨kind, [], text, [("sql", optional sql)]⟩

def driver (message : String) (sql : Option String) : Report :=
  statement .driver message " in SQL\n" sql

def cardinality (kind : ErrorKind) (message : String) (sql : Option String) : Report :=
  statement kind message " for\n" sql

def noResult (sql : Option String) : Report :=
  cardinality .noResult "Expected exactly one row but received none" sql

def multipleResults (sql : Option String) : Report :=
  cardinality .multipleResults "Expected at most one row; received more than one" sql

end Report

end QueryBook
