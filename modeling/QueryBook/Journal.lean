import QueryBook.Value.Basic

set_option autoImplicit false

namespace QueryBook

namespace Level

def debug : Int := 10

def info : Int := 20

def warning : Int := 30

def error : Int := 40

def critical : Int := 50

end Level

def rootLogger : String := "sqllibrarian"

def loggerName (name : String) : String :=
  if name.startsWith rootLogger then name else rootLogger ++ "." ++ name

structure Record where
  level : Int
  logger : String
  message : String
  extra : Option Fields

namespace Record

def debug (logger message : String) : Record :=
  ⟨Level.debug, loggerName logger, message, none⟩

def ofTag (logger message tag : String) : Record :=
  ⟨Level.debug, loggerName logger, message, some [("tag", .text tag)]⟩

end Record

abbrev Journal := List Record

end QueryBook
