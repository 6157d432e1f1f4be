import QueryBook.Text.Quoted

set_option autoImplicit false

namespace QueryBook.Text.Utf8

inductive Reason where
  | startByte
  | continuationByte
  | endOfData
  deriving DecidableEq, Repr

def Reason.text : Reason → String
  | .startByte => "invalid start byte"
  | .continuationByte => "invalid continuation byte"
  | .endOfData => "unexpected end of data"

structure Fault where
  position : Nat
  length : Nat
  byte : UInt8
  reason : Reason
  deriving DecidableEq, Repr

def Fault.message (f : Fault) : String :=
  let place :=
    if f.length = 1 then
      "byte 0x" ++ String.ofList (hexDigits 2 f.byte.toNat) ++ " in position " ++
        toString f.position
    else
      "bytes in position " ++ toString f.position ++ "-" ++
        toString (f.position + f.length - 1)
  "'utf-8' codec can't decode " ++ place ++ ": " ++ f.reason.text

def isContinuation (b : UInt8) : Bool :=
  decide (128 ≤ b.toNat) && decide (b.toNat < 192)

-- Whether `b` may follow the start byte `lead`: longer spellings than needed, surrogates and code
-- points above the last one are ruled out by the second byte.
def isSecond (lead b : UInt8) : Bool :=
  isContinuation b &&
    (if lead.toNat = 0xE0 then decide (0xA0 ≤ b.toNat)
     else if lead.toNat = 0xED then decide (b.toNat < 0xA0)
     else if lead.toNat = 0xF0 then decide (0x90 ≤ b.toNat)
     else if lead.toNat = 0xF4 then decide (b.toNat < 0x90)
     else true)

-- The number of bytes of a sequence that starts with `b`; `0` for a byte that starts none.
def sequenceLength (b : UInt8) : Nat :=
  let n := b.toNat
  if n < 0x80 then 1 else if n < 0xC2 then 0 else if n < 0xE0 then 2
  else if n < 0xF0 then 3 else if n < 0xF5 then 4 else 0

def joinCode (lead : Nat) (more : List UInt8) : Char :=
  Char.ofNat (more.foldl (fun code b => code * 64 + (b.toNat - 128)) lead)

def decodeFrom (position : Nat) : List UInt8 → Except Fault (List Char)
  | [] => .ok []
  | b :: rest =>
    let fault (length : Nat) (reason : Reason) : Except Fault (List Char) :=
      .error ⟨position, length, b, reason⟩
    match sequenceLength b, rest with
    | 1, rest => (Char.ofNat b.toNat :: ·) <$> decodeFrom (position + 1) rest
    | 0, _ => fault 1 .startByte
    | _, [] => fault 1 .endOfData
    | 2, b₂ :: rest =>
      if isSecond b b₂ then
        (joinCode (b.toNat - 0xC0) [b₂] :: ·) <$> decodeFrom (position + 2) rest
      else fault 1 .continuationByte
    | 3, b₂ :: rest =>
      if isSecond b b₂ then
        match rest with
        | [] => fault 2 .endOfData
        | b₃ :: rest =>
          if isContinuation b₃ then
            (joinCode (b.toNat - 0xE0) [b₂, b₃] :: ·) <$> decodeFrom (position + 3) rest
          else fault 2 .continuationByte
      else fault 1 .continuationByte
    | _, b₂ :: rest =>
      if isSecond b b₂ then
        match rest with
        | [] => fault 2 .endOfData
        | b₃ :: rest =>
          if isContinuation b₃ then
            match rest with
            | [] => fault 3 .endOfData
            | b₄ :: rest =>
              if isContinuation b₄ then
                (joinCode (b.toNat - 0xF0) [b₂, b₃, b₄] :: ·) <$> decodeFrom (position + 4) rest
              else fault 3 .continuationByte
          else fault 2 .continuationByte
      else fault 1 .continuationByte

def decode (bytes : List UInt8) : Except Fault (List Char) :=
  decodeFrom 0 bytes

end QueryBook.Text.Utf8
