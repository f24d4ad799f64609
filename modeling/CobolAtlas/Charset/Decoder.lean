import CobolAtlas.Charset.Hangul
import CobolAtlas.Charset.Hanzi
import CobolAtlas.Charset.Kanji
import CobolAtlas.Charset.SingleByte

/-!
# Decoding

From bytes to text. A decoder gives one character, or a mark for one malformed sequence, after the
other; malformed sequences are shown as the replacement character. A byte order mark at the start
names the encoding whatever charset was asked for.
-/

namespace CobolAtlas.Charset

abbrev Bytes := List UInt8

/-- Characters, with `none` for each malformed sequence. -/
abbrev Decoded := List (Option Char)

abbrev Decoding := Charset → Bytes → Decoded

namespace Decoded

def isMalformed (decoded : Decoded) : Bool :=
  decoded.any Option.isNone

/-- The characters, with a replacement character for each malformed sequence. -/
def chars (decoded : Decoded) : List Char :=
  decoded.map fun c => c.getD '�'

def text (decoded : Decoded) : String :=
  String.ofList (chars decoded)

def text? (decoded : Decoded) : Option String :=
  if isMalformed decoded then none else some (text decoded)

/-- The bytes of UTF-8 in front of the first malformed sequence. -/
def validSize (decoded : Decoded) : Nat :=
  (decoded.takeWhile Option.isSome).foldr (fun c size => (c.getD '�').utf8Size + size) 0

end Decoded

/-! ### UTF-8 -/

/-- A character of which some bytes are still to come. -/
structure Partial where
  /-- The bytes to come. -/
  missing : Nat
  /-- The bounds of the next byte. -/
  low : UInt8 := 0x80
  high : UInt8 := 0xBF
  /-- The bits so far. -/
  bits : Nat

inductive Utf8Start where
  | char (c : Char)
  | sequence (partly : Partial)
  | malformed

/-- What a byte starts. Neither overlong forms nor surrogates nor code points past the last one
have a second byte. -/
def utf8Start (b : UInt8) : Utf8Start :=
  if b < 0x80 then .char (Char.ofNat b.toNat)
  else if 0xC2 ≤ b && b ≤ 0xDF then .sequence ⟨1, 0x80, 0xBF, b.toNat - 0xC0⟩
  else if b = 0xE0 then .sequence ⟨2, 0xA0, 0xBF, 0⟩
  else if b = 0xED then .sequence ⟨2, 0x80, 0x9F, 0xD⟩
  else if 0xE1 ≤ b && b ≤ 0xEF then .sequence ⟨2, 0x80, 0xBF, b.toNat - 0xE0⟩
  else if b = 0xF0 then .sequence ⟨3, 0x90, 0xBF, 0⟩
  else if 0xF1 ≤ b && b ≤ 0xF3 then .sequence ⟨3, 0x80, 0xBF, b.toNat - 0xF0⟩
  else if b = 0xF4 then .sequence ⟨3, 0x80, 0x8F, 4⟩
  else .malformed

/-- Decodes UTF-8 behind the start of a sequence. A byte that cannot continue the sequence ends it
as malformed and is read again. -/
def utf8After (partly : Option Partial) : Bytes → Decoded
  | [] => if partly.isSome then [none] else []
  | b :: rest =>
    let fresh := fun _ : Unit =>
      match utf8Start b with
      | .char c => some c :: utf8After none rest
      | .sequence next => utf8After (some next) rest
      | .malformed => none :: utf8After none rest
    match partly with
    | none => fresh ()
    | some p =>
      if p.low ≤ b && b ≤ p.high then
        let bits := p.bits * 64 + (b.toNat - 0x80)
        if p.missing ≤ 1 then some (Char.ofNat bits) :: utf8After none rest
        else utf8After (some ⟨p.missing - 1, 0x80, 0xBF, bits⟩) rest
      else none :: fresh ()

/-- Decodes UTF-8, one mark for each maximal malformed sequence. -/
def utf8Text (bytes : Bytes) : Decoded :=
  utf8After none bytes

/-! ### UTF-16 -/

def isHighSurrogate (unit : Nat) : Bool :=
  0xD800 ≤ unit && unit ≤ 0xDBFF

def isLowSurrogate (unit : Nat) : Bool :=
  0xDC00 ≤ unit && unit ≤ 0xDFFF

/-- Decodes UTF-16 behind the first half of a pair. A half on its own is malformed, and so is an odd
byte at the end. -/
def utf16After (unitOf : UInt8 → UInt8 → Nat) (high : Option Nat) : Bytes → Decoded
  | [] => if high.isSome then [none] else []
  | [_] => [none]
  | a :: b :: rest =>
    let unit := unitOf a b
    let fresh := fun _ : Unit =>
      if isHighSurrogate unit then utf16After unitOf (some unit) rest
      else if isLowSurrogate unit then none :: utf16After unitOf none rest
      else some (Char.ofNat unit) :: utf16After unitOf none rest
    match high with
    | none => fresh ()
    | some h =>
      if isLowSurrogate unit then
        some (Char.ofNat (0x10000 + (h - 0xD800) * 0x400 + (unit - 0xDC00)))
          :: utf16After unitOf none rest
      else none :: fresh ()

def utf16leText (bytes : Bytes) : Decoded :=
  utf16After (fun a b => a.toNat + b.toNat * 256) none bytes

def utf16beText (bytes : Bytes) : Decoded :=
  utf16After (fun a b => a.toNat * 256 + b.toNat) none bytes

/-! ### Tables -/

/-- The character in a cell of a table, where each row has `width` cells. -/
def cell? (rows : List String) (width place : Nat) : Option Char :=
  match (rows.getD (place / width) "").toList[place % width]? with
  | some c => if c = '.' then none else some c
  | none => none

/-- The character at a place in the last run that starts there or before. -/
def runChar? (runs : List (Nat × Nat)) (place : Nat) : Option Char :=
  (runs.reverse.find? fun run => run.1 ≤ place).map fun run =>
    Char.ofNat (run.2 + (place - run.1))

def asciiChar? (b : UInt8) : Option Char :=
  if b < 0x80 then some (Char.ofNat b.toNat) else none

def highChar? (high : List String) (b : UInt8) : Option Char :=
  if b < 0x80 then asciiChar? b else cell? [String.join high] 128 (b.toNat - 0x80)

def userDefinedChar (b : UInt8) : Char :=
  if b < 0x80 then Char.ofNat b.toNat else Char.ofNat (0xF700 + b.toNat)

/-! ### Pairs -/

/-- Decodes single bytes and pairs, where `isLead` tells the first bytes of pairs. The second byte
of a pair that has no character is read again if it is an ASCII byte. -/
def pairsText (isLead : UInt8 → Bool) (single? : UInt8 → Option Char)
    (pair? : UInt8 → UInt8 → Option (List Char)) : Bytes → Decoded
  | [] => []
  | [b] => [if isLead b then none else single? b]
  | b :: c :: rest =>
    if isLead b then
      match pair? b c with
      | some found => found.map some ++ pairsText isLead single? pair? rest
      | none =>
        none :: (if c < 0x80 then pairsText isLead single? pair? (c :: rest)
          else pairsText isLead single? pair? rest)
    else single? b :: pairsText isLead single? pair? (c :: rest)

def isShiftJisLead (b : UInt8) : Bool :=
  (0x81 ≤ b && b ≤ 0x9F) || (0xE0 ≤ b && b ≤ 0xFC)

def shiftJisChar? (b : UInt8) : Option Char :=
  if b ≤ 0x80 then some (Char.ofNat b.toNat)
  else if 0xA1 ≤ b && b ≤ 0xDF then some (Char.ofNat (0xFF61 + (b.toNat - 0xA1)))
  else none

/-- A pair of Shift_JIS. Each first byte has 188 places, and those of the first bytes from 0xF0 to
0xF9 are for private use. -/
def shiftJisPair? (lead trail : UInt8) : Option Char :=
  if (0x40 ≤ trail && trail ≤ 0x7E) || (0x80 ≤ trail && trail ≤ 0xFC) then
    let place := (lead.toNat - (if lead < 0xA0 then 0x81 else 0xC1)) * 188
      + (trail.toNat - (if trail < 0x7F then 0x40 else 0x41))
    if 0xF0 ≤ lead && lead ≤ 0xF9 then some (Char.ofNat (0xE000 + (place - 8836)))
    else cell? kanjiRows 94 place
  else none

/-- The first bytes of EUC-KR, Big5 and GB18030. -/
def isHighLead (b : UInt8) : Bool :=
  0x81 ≤ b && b ≤ 0xFE

def eucKrPair? (lead trail : UInt8) : Option Char :=
  if 0x41 ≤ trail && trail ≤ 0xFE then
    cell? hangulRows 95 ((lead.toNat - 0x81) * 190 + (trail.toNat - 0x41))
  else none

/-- A pair of Big5. Four places hold a letter with an accent of its own. -/
def big5Pair? (lead trail : UInt8) : Option (List Char) :=
  if (0x40 ≤ trail && trail ≤ 0x7E) || (0xA1 ≤ trail && trail ≤ 0xFE) then
    let place := (lead.toNat - 0x81) * 157
      + (trail.toNat - (if trail < 0x7F then 0x40 else 0x62))
    match place with
    | 1133 => some ['Ê', '\u0304']
    | 1135 => some ['Ê', '\u030c']
    | 1164 => some ['ê', '\u0304']
    | 1166 => some ['ê', '\u030c']
    | _ => (cell? big5Rows 95 place).map (fun c => [c])
  else none

/-! ### GB18030 -/

def gb18030Pair? (lead trail : UInt8) : Option Char :=
  if (0x40 ≤ trail && trail ≤ 0x7E) || (0x80 ≤ trail && trail ≤ 0xFE) then
    let place := (lead.toNat - 0x81) * 190
      + (trail.toNat - (if trail < 0x7F then 0x40 else 0x41))
    (cell? hanziRows 95 place).or (runChar? privateRuns place)
  else none

def gb18030Four? (a b c d : UInt8) : Option Char :=
  let place := (a.toNat - 0x81) * 12600 + (b.toNat - 0x30) * 1260 + (c.toNat - 0x81) * 10
    + (d.toNat - 0x30)
  if (39419 < place && place < 189000) || 1237575 < place then none
  else runChar? fourByteRuns place

def isDigitByte (b : UInt8) : Bool :=
  0x30 ≤ b && b ≤ 0x39

/-- Decodes GB18030. A digit as second byte starts a character of four bytes; if the bytes behind it
do not fit, it is read again. -/
def gb18030Text : Bytes → Decoded
  | [] => []
  | a :: rest =>
    if a = 0x80 then some '€' :: gb18030Text rest
    else if isHighLead a then
      match rest with
      | [] => [none]
      | b :: more =>
        if isDigitByte b then
          match more with
          | [] => [none]
          | [c] => if isHighLead c then [none] else none :: gb18030Text [b, c]
          | c :: d :: later =>
            if isHighLead c && isDigitByte d then gb18030Four? a b c d :: gb18030Text later
            else none :: gb18030Text (b :: c :: d :: later)
        else
          match gb18030Pair? a b with
          | some found => some found :: gb18030Text more
          | none => none :: (if b < 0x80 then gb18030Text (b :: more) else gb18030Text more)
    else asciiChar? a :: gb18030Text rest

/-! ### Japanese beyond Shift_JIS -/

def isHighByte (b : UInt8) : Bool :=
  0xA1 ≤ b && b ≤ 0xFE

/-- The cell of two bytes, where both count from `first` on. -/
def cellOf (first a b : UInt8) : Nat :=
  (a.toNat - first.toNat) * 94 + (b.toNat - first.toNat)

/-- Decodes EUC-JP. The byte 0x8E stands in front of half-width letters, and 0x8F in front of the
supplement. -/
def eucJpText : Bytes → Decoded
  | [] => []
  | [b] => [asciiChar? b]
  | 0x8F :: b :: c :: rest =>
    if isHighByte b then
      match if isHighByte c then cell? supplementRows 94 (cellOf 0xA1 b c) else none with
      | some found => some found :: eucJpText rest
      | none => none :: (if c < 0x80 then eucJpText (c :: rest) else eucJpText rest)
    else none :: (if b < 0x80 then eucJpText (b :: c :: rest) else eucJpText (c :: rest))
  | 0x8F :: b :: [] =>
    if isHighByte b then [none] else none :: (if b < 0x80 then eucJpText [b] else [])
  | a :: b :: rest =>
    if a = 0x8E || isHighByte a then
      let found :=
        if a = 0x8E then
          if 0xA1 ≤ b && b ≤ 0xDF then some (Char.ofNat (0xFF61 + (b.toNat - 0xA1))) else none
        else if isHighByte b then cell? kanjiRows 94 (cellOf 0xA1 a b)
        else none
      match found with
      | some c => some c :: eucJpText rest
      | none => none :: (if b < 0x80 then eucJpText (b :: rest) else eucJpText rest)
    else asciiChar? a :: eucJpText (b :: rest)

/-- The sets of characters that escapes of ISO-2022-JP switch between. -/
inductive JisSet where
  | ascii
  | roman
  | katakana
  | kanji

def JisSet.ofEscape? : UInt8 → UInt8 → Option JisSet
  | 0x28, 0x42 => some .ascii
  | 0x28, 0x4A => some .roman
  | 0x28, 0x49 => some .katakana
  | 0x24, 0x40 => some .kanji
  | 0x24, 0x42 => some .kanji
  | _, _ => none

def JisSet.char? (set : JisSet) (b : UInt8) : Option Char :=
  match set with
  | .katakana =>
    if 0x21 ≤ b && b ≤ 0x5F then some (Char.ofNat (0xFF61 + (b.toNat - 0x21))) else none
  | .kanji => none
  | .roman => if b = 0x5C then some '¥' else if b = 0x7E then some '‾' else shiftless b
  | .ascii => shiftless b
where
  /-- ASCII without the two bytes that shift between sets elsewhere. -/
  shiftless (b : UInt8) : Option Char :=
    if b = 0x0E || b = 0x0F then none else asciiChar? b

/-- Decodes ISO-2022-JP. Two escapes with nothing between them are malformed. -/
def iso2022JpAfter (set : JisSet) (escaped : Bool) (bytes : Bytes) : Decoded :=
  match bytes with
  | [] => []
  | 0x1B :: rest =>
    match rest with
    | a :: b :: more =>
      match JisSet.ofEscape? a b with
      | some next => (if escaped then [none] else []) ++ iso2022JpAfter next true more
      | none => none :: iso2022JpAfter set false (a :: b :: more)
    | rest => none :: iso2022JpAfter set false rest
  | a :: rest =>
    match set with
    | .kanji =>
      if 0x21 ≤ a && a ≤ 0x7E then
        match rest with
        | [] => [none]
        | b :: more =>
          if b = 0x1B then none :: iso2022JpAfter set false (b :: more)
          else
            (if 0x21 ≤ b && b ≤ 0x7E then cell? kanjiRows 94 (cellOf 0x21 a b) else none)
              :: iso2022JpAfter set false more
      else none :: iso2022JpAfter set false rest
    | set => set.char? a :: iso2022JpAfter set false rest
termination_by bytes.length

/-! ### Files -/

/-- The encoding that a byte order mark names, and the bytes behind the mark. -/
def behindMark? : Bytes → Option (Charset × Bytes)
  | 0xEF :: 0xBB :: 0xBF :: rest => some (.utf8, rest)
  | 0xFF :: 0xFE :: rest => some (.utf16le, rest)
  | 0xFE :: 0xFF :: rest => some (.utf16be, rest)
  | _ => none

def decodeUnmarked (charset : Charset) (bytes : Bytes) : Decoded :=
  match charset with
  | .utf8 => utf8Text bytes
  | .utf16le => utf16leText bytes
  | .utf16be => utf16beText bytes
  | .shiftJis =>
    pairsText isShiftJisLead shiftJisChar? (fun a b => (shiftJisPair? a b).map fun c => [c]) bytes
  | .eucKr => pairsText isHighLead asciiChar? (fun a b => (eucKrPair? a b).map fun c => [c]) bytes
  | .big5 => pairsText isHighLead asciiChar? big5Pair? bytes
  | .gb18030 | .gbk => gb18030Text bytes
  | .eucJp => eucJpText bytes
  | .iso2022Jp => iso2022JpAfter .ascii false bytes
  | .userDefined => bytes.map fun b => some (userDefinedChar b)
  | .replacement => if bytes.isEmpty then [] else [none]
  | single => bytes.map (highChar? single.highChars)

def decode : Decoding := fun charset bytes =>
  match behindMark? bytes with
  | some (marked, rest) => decodeUnmarked marked rest
  | none => decodeUnmarked charset bytes

end CobolAtlas.Charset
