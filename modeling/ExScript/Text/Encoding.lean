import ExScript.Text.Case
import ExScript.Text.Quoted

/-!
Texts read from bytes. A byte sequence that is no text is refused at the first character that
cannot be read, with the position of its first byte and the number of bytes it takes up.
-/

namespace ExScript.Text

inductive Encoding where
  | utf8
  | utf8Signed
  | latin1
  | ascii
  deriving DecidableEq, Repr

def plainName (name : String) : String :=
  let step := fun (c : Char) (out : List Char) =>
    if c.isAlphanum || c = '.' then c :: out
    else match out with
      | '_' :: _ => out
      | _ => '_' :: out
  lower (String.ofList (name.toList.foldr step []))

def Encoding.named? (name : String) : Option Encoding :=
  match plainName name with
  | "utf_8" | "utf8" | "u8" | "utf" | "cp65001" => some .utf8
  | "utf_8_sig" => some .utf8Signed
  | "latin_1" | "latin1" | "latin" | "l1" | "iso_8859_1" | "iso8859_1" | "iso8859" | "8859"
  | "cp819" => some .latin1
  | "ascii" | "us_ascii" | "646" | "us" => some .ascii
  | _ => none

inductive DecodeReason where
  | invalidStart
  | invalidContinuation
  | endOfData
  | outOfRange
  deriving DecidableEq, Repr

def DecodeReason.text : DecodeReason → String
  | .invalidStart => "invalid start byte"
  | .invalidContinuation => "invalid continuation byte"
  | .endOfData => "unexpected end of data"
  | .outOfRange => "ordinal not in range(128)"

structure DecodeFault where
  codec : String
  lead : UInt8
  start : Nat
  length : Nat
  reason : DecodeReason
  deriving DecidableEq, Repr

def DecodeFault.text (fault : DecodeFault) : String :=
  let culprit :=
    if fault.length = 1 then
      "byte 0x" ++ String.ofList (hexDigits 2 fault.lead.toNat) ++ " in position " ++
        toString fault.start
    else
      "bytes in position " ++ toString fault.start ++ "-" ++
        toString (fault.start + fault.length - 1)
  "'" ++ fault.codec ++ "' codec can't decode " ++ culprit ++ ": " ++ fault.reason.text

/-- A character begun: its bits so far, the bytes it still needs, the bounds of the next one, and
the bytes read. -/
structure Begun where
  lead : UInt8
  bits : Nat
  owed : Nat
  least : UInt8
  greatest : UInt8
  read : Nat
  deriving DecidableEq, Repr

/-- The second byte is bounded so that no character has two encodings, none is a surrogate, and
none lies beyond the last code point. -/
def Begun.lead? (byte : UInt8) : Option Begun :=
  if 0xC2 ≤ byte && byte ≤ 0xDF then some ⟨byte, byte.toNat % 0x20, 1, 0x80, 0xBF, 1⟩
  else if 0xE0 ≤ byte && byte ≤ 0xEF then
    some ⟨byte, byte.toNat % 0x10, 2, if byte = 0xE0 then 0xA0 else 0x80,
      if byte = 0xED then 0x9F else 0xBF, 1⟩
  else if 0xF0 ≤ byte && byte ≤ 0xF4 then
    some ⟨byte, byte.toNat % 0x08, 3, if byte = 0xF0 then 0x90 else 0x80,
      if byte = 0xF4 then 0x8F else 0xBF, 1⟩
  else none

def Begun.refuse (begun : Begun) (position : Nat) (reason : DecodeReason) : DecodeFault :=
  ⟨"utf-8", begun.lead, position - begun.read, begun.read, reason⟩

def decodeUtf8 (position : Nat) (begun : Option Begun) :
    List UInt8 → Except DecodeFault (List Char)
  | [] =>
      match begun with
      | none => .ok []
      | some char => .error (char.refuse position .endOfData)
  | byte :: rest =>
      match begun with
      | none =>
          if byte < 0x80 then
            (decodeUtf8 (position + 1) none rest).map (Char.ofNat byte.toNat :: ·)
          else
            match Begun.lead? byte with
            | none => .error ⟨"utf-8", byte, position, 1, .invalidStart⟩
            | some char => decodeUtf8 (position + 1) (some char) rest
      | some char =>
          if char.least ≤ byte && byte ≤ char.greatest then
            let bits := char.bits * 0x40 + byte.toNat % 0x40
            if char.owed = 1 then
              (decodeUtf8 (position + 1) none rest).map (Char.ofNat bits :: ·)
            else
              decodeUtf8 (position + 1)
                (some ⟨char.lead, bits, char.owed - 1, 0x80, 0xBF, char.read + 1⟩) rest
          else .error (char.refuse position .invalidContinuation)

def decodeAscii (position : Nat) : List UInt8 → Except DecodeFault (List Char)
  | [] => .ok []
  | byte :: rest =>
      if byte < 0x80 then (decodeAscii (position + 1) rest).map (Char.ofNat byte.toNat :: ·)
      else .error ⟨"ascii", byte, position, 1, .outOfRange⟩

def byteOrderMark : List UInt8 := [0xEF, 0xBB, 0xBF]

/-- A byte order mark in front is dropped, and so is the start of one that is all there is.
Positions count from behind the mark. -/
def decodeSigned (bytes : List UInt8) : Except DecodeFault (List Char) :=
  if bytes.length < 3 && bytes.isPrefixOf byteOrderMark then .ok []
  else if byteOrderMark.isPrefixOf bytes then decodeUtf8 0 none (bytes.drop 3)
  else decodeUtf8 0 none bytes

def Encoding.decode : Encoding → List UInt8 → Except DecodeFault (List Char)
  | .utf8, bytes => decodeUtf8 0 none bytes
  | .utf8Signed, bytes => decodeSigned bytes
  | .latin1, bytes => .ok (bytes.map fun byte => Char.ofNat byte.toNat)
  | .ascii, bytes => decodeAscii 0 bytes

def encodeUtf8 (text : String) : List UInt8 :=
  text.toUTF8.toList

end ExScript.Text
