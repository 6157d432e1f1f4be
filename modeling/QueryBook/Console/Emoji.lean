import QueryBook.Console.EmojiNames
import QueryBook.Text.Blank
import QueryBook.Text.Search

set_option autoImplicit false

namespace QueryBook.Console.Emoji

def tones : List (String × Char) :=
  [("light", '🏻'), ("medium-light", '🏼'), ("medium", '🏽'), ("medium-dark", '🏾'), ("dark", '🏿')]

def entry? (text : List Char) : Option (List Char × List String) :=
  match Text.splitOn ':' text with
  | emoji :: names => some (emoji, names.map String.ofList)
  | [] => none

def entries (lines : List String) : List (List Char × List String) :=
  lines.flatMap fun line => (Text.splitOn ' ' line.toList).filterMap entry?

-- A tone follows the person, in the place of a selector.
def withTone (tone : Char) : List Char → List Char
  | [] => []
  | person :: rest => person :: tone :: rest.dropWhile (· = '\ufe0f')

def named : List (String × List Char) :=
  let plain := (entries people ++ entries flags ++ entries things).flatMap fun (emoji, names) =>
    names.map fun name => (name, emoji)
  let toned := (entries people).flatMap fun (emoji, names) =>
    names.flatMap fun name =>
      tones.map fun (tone, c) => (name ++ "_" ++ tone ++ "_skin_tone", withTone c emoji)
  let forCountries := (entries flags).flatMap fun (emoji, names) =>
    names.map fun name => ("flag_for_" ++ name, emoji)
  plain ++ toned ++ forCountries

def smallLetter (c : Char) : Char :=
  if c = '\u212a' then 'k'
  else if c = '\u212b' then 'å'
  else if 192 ≤ c.toNat ∧ c.toNat ≤ 222 ∧ c ≠ '×' then Char.ofNat (c.toNat + 32)
  else c.toLower

def ofName? (name : List Char) : Option (List Char) :=
  named.lookup (String.ofList (name.map smallLetter))

def forms : List (List Char × Char) :=
  [("-emoji".toList, '\ufe0f'), ("-text".toList, '\ufe0e')]

def ofCode? (code : List Char) : Option (List Char) :=
  match forms.find? fun (ending, _) => ending.isSuffixOf code with
  | some (ending, form) => (ofName? (code.take (code.length - ending.length))).map (· ++ [form])
  | none => ofName? code

def replace : List Char → List Char
  | [] => []
  | c :: rest =>
    if c = ':' then
      match found : Text.breakAt? [':'] rest with
      | some (code, after) =>
        if code.any Text.isBlank then c :: replace rest
        else
          have : after.length ≤ rest.length := Text.length_of_breakAt? found
          (ofCode? code).getD (':' :: code ++ [':']) ++ replace after
      | none => c :: replace rest
    else c :: replace rest
termination_by cs => cs.length

end QueryBook.Console.Emoji
