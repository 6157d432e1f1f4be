import QueryBook.Data.Basic
import QueryBook.MarkerStyle
import QueryBook.Shelf.Basic
import QueryBook.Text.Blank

set_option autoImplicit false

namespace QueryBook

structure Settings where
  lib : List String
  extension : String
  autocommit : Bool
  allArrays : Bool
  database : String
  style : Option MarkerStyle
  maxDepth : Nat
  warnBareColumns : Bool
  dialect : Option String
  validate : Bool
  trace : Bool
  one_le_maxDepth : 1 ≤ maxDepth := by omega

structure SettingsDraft where
  lib : List String
  extension : String
  autocommit : Bool
  allArrays : Bool
  database : String
  styleName : Option String
  maxDepth : Int
  warnBareColumns : Bool
  dialect : Option String
  validate : Bool
  trace : Bool

namespace Settings

def databaseVariable : String := "SQLLIBRARIAN_DATABASE"

def traceVariable : String := "SQLLIBRARIAN_TRACE"

def offWords : List String := ["", "0", "false", "no", "off"]

def isOn (text : String) : Bool :=
  !offWords.contains (Text.strip text).toLower

def capitalNames : List (String × String) :=
  [("ARCHIVER", "archiver"), ("LIB", "lib"), ("EXTENSION", "extension"),
   ("AUTOCOMMIT", "autocommit"), ("ALLARRAYS", "all_arrays"), ("DBH", "connection"),
   ("DATABASE", "database"), ("PARAMETER_STYLE", "parameter_style"),
   ("MAX_INCLUDE_DEPTH", "max_include_depth"), ("WARN_BARE_COLUMNS", "warn_bare_columns"),
   ("DIALECT", "dialect"), ("VALIDATE_SQL", "validate_sql"), ("TRACE", "trace")]

def names : List String :=
  ["archiver", "lib", "extension", "autocommit", "all_arrays", "connection", "database",
   "parameter_style", "max_include_depth", "warn_bare_columns", "dialect", "validate_sql", "trace"]

def draft (s : Settings) : SettingsDraft where
  lib := s.lib
  extension := s.extension
  autocommit := s.autocommit
  allArrays := s.allArrays
  database := s.database
  styleName := s.style.map MarkerStyle.name
  maxDepth := s.maxDepth
  warnBareColumns := s.warnBareColumns
  dialect := s.dialect
  validate := s.validate
  trace := s.trace

def placement (s : Settings) : Placement :=
  if s.allArrays then .arrays else .plain

def defaultShelf (s : Settings) : Shelf :=
  .files (.ofParts .onePerFile s.lib s.extension .utf8)

end Settings

namespace SettingsDraft

-- The settings of a book that is given none; two of them come from the environment.
def initial (environment : Keyed String) : SettingsDraft where
  lib := ["sql"]
  extension := "sql"
  autocommit := true
  allArrays := false
  database := (environment.get? Settings.databaseVariable).getD ":memory:"
  styleName := none
  maxDepth := 32
  warnBareColumns := true
  dialect := none
  validate := true
  trace := Settings.isOn ((environment.get? Settings.traceVariable).getD "")

def textValue? : Value → Option String
  | .text s => some s
  | _ => none

def textValue (v : Value) : String :=
  (textValue? v).getD v.display

def directories : Value → List String
  | .list vs | .tuple vs => vs.map textValue
  | v => [textValue v]

def intValue : Value → Int
  | .int i => i
  | .bool true => 1
  | _ => 0

-- Assigns a value to the setting of this name. Names that stand for no value here are left alone.
def assign (d : SettingsDraft) (name : String) (v : Value) : SettingsDraft :=
  match name with
  | "lib" => { d with lib := directories v }
  | "extension" => { d with extension := textValue v }
  | "autocommit" => { d with autocommit := v.isTruthy }
  | "all_arrays" => { d with allArrays := v.isTruthy }
  | "database" => { d with database := textValue v }
  | "parameter_style" => { d with styleName := textValue? v }
  | "max_include_depth" => { d with maxDepth := intValue v }
  | "warn_bare_columns" => { d with warnBareColumns := v.isTruthy }
  | "dialect" => { d with dialect := textValue? v }
  | "validate_sql" => { d with validate := v.isTruthy }
  | "trace" => { d with trace := v.isTruthy }
  | _ => d

def checkStyle (name : Option String) : Except Error (Option MarkerStyle) :=
  match name with
  | none => .ok none
  | some name =>
    match MarkerStyle.ofName? name with
    | some style => .ok (some style)
    | none => .error (.unknownSettingStyle name)

-- The style is checked before the depth.
def check (d : SettingsDraft) : Except Error Settings := do
  let style ← checkStyle d.styleName
  if positive : d.maxDepth < 1 then throw .includeLimit
  else
    pure
      { lib := d.lib
        extension := d.extension
        autocommit := d.autocommit
        allArrays := d.allArrays
        database := d.database
        style
        maxDepth := d.maxDepth.toNat
        warnBareColumns := d.warnBareColumns
        dialect := d.dialect
        validate := d.validate
        trace := d.trace }

def assignAll (d : SettingsDraft) (entries : List (String × Value)) : SettingsDraft :=
  entries.foldl (fun d (name, v) => d.assign name v) d

end SettingsDraft

namespace Settings

def ofFields (environment : Keyed String) (entries : List (String × Value)) :
    Except Error Settings :=
  ((SettingsDraft.initial environment).assignAll entries).check

def knownName? (name : String) : Option String :=
  let usual := ((Keyed.get? capitalNames name).getD name)
  if names.contains usual then some usual else none

def ofMapping (environment : Keyed String) (entries : List (String × Value)) :
    Except Error Settings := do
  let known ← entries.mapM fun (name, v) =>
    match knownName? name with
    | some usual => .ok (usual, v)
    | none => .error (.unknownSettings [name])
  ofFields environment known

-- The settings with some of them replaced. Capital names are not known here.
def withOverrides (s : Settings) (entries : List (String × Value)) : Except Error Settings :=
  match sortedNames ((entries.map (·.1)).filter fun name => !names.contains name) with
  | [] => (s.draft.assignAll entries).check
  | unknown => .error (.unknownSettings unknown)

end Settings

end QueryBook
