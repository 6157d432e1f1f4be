import QueryBook.Decimal.Text
import QueryBook.Value.Basic

set_option autoImplicit false

namespace QueryBook.Json

inductive Token where
  | openList
  | closeList
  | openRecord
  | closeRecord
  | comma
  | colon
  | text (s : String)
  | atom (v : Value)
  | unreadable

def isSpace (c : Char) : Bool :=
  c == ' ' || c == '\t' || c == '\n' || c == '\r'

def hexValue? (c : Char) : Option Nat :=
  if '0' ≤ c ∧ c ≤ '9' then some (c.toNat - 48)
  else if 'a' ≤ c ∧ c ≤ 'f' then some (c.toNat - 87)
  else if 'A' ≤ c ∧ c ≤ 'F' then some (c.toNat - 55)
  else none

def unit? (a b c d : Char) : Option Nat := do
  let a ← hexValue? a
  let b ← hexValue? b
  let c ← hexValue? c
  let d ← hexValue? d
  pure (((a * 16 + b) * 16 + c) * 16 + d)

def simpleEscape? : Char → Option Char
  | '"' => some '"'
  | '\\' => some '\\'
  | '/' => some '/'
  | 'b' => some '\x08'
  | 'f' => some '\x0c'
  | 'n' => some '\n'
  | 'r' => some '\r'
  | 't' => some '\t'
  | _ => none

def isSurrogate (code : Nat) : Bool :=
  decide (0xD800 ≤ code) && decide (code < 0xE000)

-- A character outside the first plane is written as two units.
def pair? (high low : Nat) : Option Char :=
  if high < 0xDC00 ∧ 0xDC00 ≤ low ∧ low < 0xE000 then
    some (Char.ofNat (0x10000 + (high - 0xD800) * 1024 + (low - 0xDC00)))
  else none

def unitChar? (code : Nat) (rest : List Char) : Option (Char × List Char) :=
  if isSurrogate code then
    match rest with
    | '\\' :: 'u' :: a :: b :: c :: d :: rest =>
      ((unit? a b c d).bind (pair? code)).map (·, rest)
    | _ => none
  else some (Char.ofNat code, rest)

def escape? : List Char → Option (Char × List Char)
  | [] => none
  | 'u' :: a :: b :: c :: d :: rest => (unit? a b c d).bind fun code => unitChar? code rest
  | c :: rest => (simpleEscape? c).map (·, rest)

theorem length_unitChar? {code : Nat} {cs after : List Char} {c : Char}
    (found : unitChar? code cs = some (c, after)) : after.length ≤ cs.length := by
  revert found
  fun_cases unitChar? code cs with
  | case1 =>
    simp only [Option.map_eq_some_iff, Prod.mk.injEq, List.length_cons]
    rintro ⟨_, _, _, rfl⟩
    omega
  | case2 => simp
  | case3 => grind

theorem length_escape? {cs after : List Char} {c : Char} (found : escape? cs = some (c, after)) :
    after.length < cs.length := by
  revert found
  fun_cases escape? cs with
  | case1 => simp
  | case2 a b c d rest =>
    intro found
    obtain ⟨code, _, char⟩ := Option.bind_eq_some_iff.mp found
    have := length_unitChar? char
    simp only [List.length_cons]
    omega
  | case3 =>
    simp only [Option.map_eq_some_iff, Prod.mk.injEq, List.length_cons]
    rintro ⟨_, _, _, rfl⟩
    omega

def textBody : List Char → Option (List Char × List Char)
  | [] => none
  | c :: rest =>
    if c = '"' then some ([], rest)
    else if c = '\\' then
      match found : escape? rest with
      | none => none
      | some (char, after) =>
        have : after.length < rest.length := length_escape? found
        (textBody after).map fun (body, after) => (char :: body, after)
    else if c.toNat < 32 then none
    else (textBody rest).map fun (body, after) => (c :: body, after)
termination_by cs => cs.length

theorem length_textBody {cs body after : List Char} (found : textBody cs = some (body, after)) :
    after.length < cs.length := by
  fun_induction textBody cs generalizing body after with
  | case1 => simp at found
  | case2 => simp_all
  | case3 => simp at found
  | case4 rest _ _ _ _ shorter ih =>
    obtain ⟨⟨inner, tail⟩, same, eq⟩ := Option.map_eq_some_iff.mp found
    have := ih same
    simp_all only [Prod.mk.injEq, List.length_cons]
    omega
  | case5 => simp at found
  | case6 rest _ _ _ _ ih =>
    obtain ⟨⟨inner, tail⟩, same, eq⟩ := Option.map_eq_some_iff.mp found
    have := ih same
    simp_all only [Prod.mk.injEq, List.length_cons]
    omega

def digitsValue (ds : List Char) : Nat :=
  ds.foldl (fun n d => n * 10 + (d.toNat - 48)) 0

def longestInteger : Nat := 4300

-- The value of a number: a sign, digits without a leading zero, then perhaps a fraction and an
-- exponent. Without both of these it is an integer.
def number? (word : List Char) : Option Value := do
  let (negative, unsigned) :=
    match word with
    | '-' :: rest => (true, rest)
    | rest => (false, rest)
  let whole := unsigned.takeWhile Char.isDigit
  let rest := unsigned.dropWhile Char.isDigit
  if whole = [] ∨ (whole.head? = some '0' ∧ whole.length ≠ 1) then none
  if rest = [] then
    if longestInteger < word.length then none
    return .int (if negative then -(digitsValue whole : Int) else digitsValue whole)
  let (fraction, rest) ←
    match rest with
    | '.' :: rest =>
      if (rest.takeWhile Char.isDigit) = [] then none
      else some (rest.takeWhile Char.isDigit, rest.dropWhile Char.isDigit)
    | rest => some ([], rest)
  let power ←
    match rest with
    | [] => some (0 : Int)
    | e :: rest =>
      if e ≠ 'e' ∧ e ≠ 'E' then none
      else
        let (down, ds) :=
          match rest with
          | '-' :: ds => (true, ds)
          | '+' :: ds => (false, ds)
          | ds => (false, ds)
        if ds = [] ∨ !ds.all Char.isDigit then none
        else some (if down then -(digitsValue ds : Int) else digitsValue ds)
  let x ← Decimal.toFloat? negative (digitsValue (whole ++ fraction)) (power - fraction.length)
  pure (.float x)

def word? (word : List Char) : Option Value :=
  if word = "null".toList then some .null
  else if word = "true".toList then some (.bool true)
  else if word = "false".toList then some (.bool false)
  else number? word

def isWordChar (c : Char) : Bool :=
  c.isAlphanum || c == '-' || c == '+' || c == '.'

def mark? : Char → Option Token
  | '[' => some .openList
  | ']' => some .closeList
  | '\x7b' => some .openRecord
  | '\x7d' => some .closeRecord
  | ',' => some .comma
  | ':' => some .colon
  | _ => none

theorem length_dropWhile_le {α : Type} (p : α → Bool) (l : List α) :
    (l.dropWhile p).length ≤ l.length :=
  (List.dropWhile_suffix p).length_le

def tokens : List Char → List Token
  | [] => []
  | c :: rest =>
    if isSpace c then tokens rest
    else if c = '"' then
      match found : textBody rest with
      | none => [.unreadable]
      | some (body, after) =>
        have : after.length < rest.length := length_textBody found
        .text (String.ofList body) :: tokens after
    else
      match mark? c, word? (c :: rest.takeWhile isWordChar) with
      | some mark, _ => mark :: tokens rest
      | none, some v =>
        have : (rest.dropWhile isWordChar).length ≤ rest.length := length_dropWhile_le ..
        .atom v :: tokens (rest.dropWhile isWordChar)
      | none, none => [.unreadable]
termination_by cs => cs.length

end QueryBook.Json
