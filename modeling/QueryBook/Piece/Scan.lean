import QueryBook.Piece.Basic

set_option autoImplicit false

namespace QueryBook.Piece

def quotedBody? (mark : Char) : List Char → Option (List Char × List Char)
  | [] => none
  | c :: rest =>
    if c = mark then some ([], rest)
    else if c = '\\' then
      match rest with
      | [] => none
      | escaped :: rest =>
        (quotedBody? mark rest).map fun (body, rest) => (c :: escaped :: body, rest)
    else (quotedBody? mark rest).map fun (body, rest) => (c :: body, rest)

def quoted? : List Char → Option (Piece × List Char)
  | c :: rest =>
    if c = '"' ∨ c = '\'' then
      (quotedBody? c rest).map fun (body, rest) => (.quoted c body, rest)
    else none
  | [] => none

def dollarQuoted? : List Char → Option (Piece × List Char)
  | '$' :: rest =>
    let tag := rest.takeWhile Text.isWord
    match rest.dropWhile Text.isWord with
    | '$' :: rest =>
      (Text.breakAt? (delimiter tag) rest).map fun (body, rest) => (.dollarQuoted tag body, rest)
    | _ => none
  | _ => none

def isLineBody (c : Char) : Bool :=
  c != '\n' && c != '\r'

def lineComment? : List Char → Option (Piece × List Char)
  | '-' :: '-' :: rest =>
    some (.lineComment (rest.takeWhile isLineBody), rest.dropWhile isLineBody)
  | _ => none

def blockComment? : List Char → Option (Piece × List Char)
  | '/' :: '*' :: rest =>
    (Text.breakAt? ['*', '/'] rest).map fun (body, rest) => (.blockComment body, rest)
  | _ => none

def cast? : List Char → Option (Piece × List Char)
  | ':' :: ':' :: c :: rest =>
    if Text.isWord c then some (.cast (c :: rest.takeWhile Text.isWord), rest.dropWhile Text.isWord)
    else none
  | _ => none

def name? : List Char → Option (List Char × List Char)
  | c :: rest =>
    if Text.isNameStart c then some (c :: rest.takeWhile Text.isWord, rest.dropWhile Text.isWord)
    else none
  | [] => none

-- A colon after a word character or another colon starts no bind.
def allowsBind : Option Char → Bool
  | some c => !Text.isWord c && c != ':'
  | none => true

def bind? (previous : Option Char) : List Char → Option (Piece × List Char)
  | ':' :: rest =>
    if allowsBind previous then (name? rest).map fun (name, rest) => (.bind name, rest) else none
  | _ => none

def direct? : List Char → Option (Piece × List Char)
  | '$' :: rest => (name? rest).map fun (name, rest) => (.direct name, rest)
  | _ => none

-- The piece at the start of the text when it is not a plain character. `previous` is the character
-- before the text.
def special? (previous : Option Char) (cs : List Char) : Option (Piece × List Char) :=
  quoted? cs <|> dollarQuoted? cs <|> lineComment? cs <|> blockComment? cs <|> cast? cs <|>
    bind? previous cs <|> direct? cs

theorem eq_of_quotedBody? {mark : Char} {cs body rest : List Char}
    (found : quotedBody? mark cs = some (body, rest)) : cs = body ++ mark :: rest := by
  fun_induction quotedBody? mark cs generalizing body rest <;>
    simp only [Option.map_eq_some_iff, Prod.exists, Prod.mk.injEq, reduceCtorEq, Option.some.injEq]
      at found <;> grind

theorem eq_of_name? {cs name rest : List Char} (found : name? cs = some (name, rest)) :
    cs = name ++ rest := by
  revert found
  fun_cases name? cs <;> simp
  rintro rfl rfl
  simp

theorem eq_of_quoted? {cs rest : List Char} {p : Piece} (found : quoted? cs = some (p, rest)) :
    cs = p.chars ++ rest := by
  revert found
  fun_cases quoted? cs <;> simp
  rintro body inner rfl
  simp [chars, eq_of_quotedBody? inner]

theorem eq_of_dollarQuoted? {cs rest : List Char} {p : Piece}
    (found : dollarQuoted? cs = some (p, rest)) : cs = p.chars ++ rest := by
  revert found
  fun_cases dollarQuoted? cs with
  | case1 cs tag after split =>
    simp only [Option.map_eq_some_iff, Prod.exists, Prod.mk.injEq]
    rintro ⟨body, _, inner, rfl, rfl⟩
    rw [← List.takeWhile_append_dropWhile (p := Text.isWord) (l := cs), split,
      Text.eq_of_breakAt? inner]
    simp [chars, delimiter, tag]
  | case2 => simp
  | case3 => simp

theorem eq_of_lineComment? {cs rest : List Char} {p : Piece}
    (found : lineComment? cs = some (p, rest)) : cs = p.chars ++ rest := by
  revert found
  fun_cases lineComment? cs <;> simp
  rintro rfl rfl
  simp [chars]

theorem eq_of_blockComment? {cs rest : List Char} {p : Piece}
    (found : blockComment? cs = some (p, rest)) : cs = p.chars ++ rest := by
  revert found
  fun_cases blockComment? cs <;> simp
  rintro body inner rfl
  simp [chars, Text.eq_of_breakAt? inner]

theorem eq_of_cast? {cs rest : List Char} {p : Piece} (found : cast? cs = some (p, rest)) :
    cs = p.chars ++ rest := by
  revert found
  fun_cases cast? cs <;> simp
  rintro rfl rfl
  simp [chars]

theorem eq_of_bind? {previous : Option Char} {cs rest : List Char} {p : Piece}
    (found : bind? previous cs = some (p, rest)) : cs = p.chars ++ rest := by
  revert found
  fun_cases bind? previous cs <;> simp
  rintro name inner rfl
  simp [chars, eq_of_name? inner]

theorem eq_of_direct? {cs rest : List Char} {p : Piece} (found : direct? cs = some (p, rest)) :
    cs = p.chars ++ rest := by
  revert found
  fun_cases direct? cs <;> simp
  rintro name inner rfl
  simp [chars, eq_of_name? inner]

theorem eq_of_special? {previous : Option Char} {cs rest : List Char} {p : Piece}
    (found : special? previous cs = some (p, rest)) : cs = p.chars ++ rest := by
  simp only [special?, Option.orElse_eq_orElse, Option.orElse_eq_or, Option.or_eq_some_iff] at found
  grind [eq_of_quoted?, eq_of_dollarQuoted?, eq_of_lineComment?, eq_of_blockComment?, eq_of_cast?,
    eq_of_bind?, eq_of_direct?]

theorem length_of_special? {previous : Option Char} {cs rest : List Char} {p : Piece}
    (found : special? previous cs = some (p, rest)) : rest.length < cs.length := by
  have := List.length_pos_iff.mpr p.chars_ne_nil
  rw [eq_of_special? found, List.length_append]
  omega

def scan (previous : Option Char) : List Char → List Piece
  | [] => []
  | c :: cs =>
    match found : special? previous (c :: cs) with
    | some (p, rest) =>
      have : rest.length < (c :: cs).length := length_of_special? found
      p :: scan p.chars.getLast? rest
    | none => .plain c :: scan (some c) cs
termination_by cs => cs.length
decreasing_by
  · exact this
  · exact Nat.lt_succ_self _

theorem text_scan (previous : Option Char) (cs : List Char) : text (scan previous cs) = cs := by
  fun_induction scan previous cs with
  | case1 => rfl
  | case2 previous c cs p rest found _ ih => rw [text_cons, ih, ← eq_of_special? found]
  | case3 previous c cs _ ih => simp [ih, chars]

def ofText (sql : String) : List Piece :=
  scan none sql.toList

theorem text_ofText (sql : String) : text (ofText sql) = sql.toList :=
  text_scan none _

end QueryBook.Piece
