import CobolAtlas.Chars
import CobolAtlas.JsonText.Fault

/-!
# Reading JSON texts

The parts of a JSON text that a configuration is made of: blanks, texts, values that are passed
over, and values of the wrong type, which are read only as far as a message about them needs. Every
reader leaves no more than it was given.
-/

namespace CobolAtlas.JsonText

abbrev Reading (α : Type) := Except Fault (α × List Char)

def skipBlanks (cs : List Char) : List Char :=
  cs.dropWhile fun c => c = ' ' || c = '\n' || c = '\t' || c = '\r'

theorem skipBlanks_length (cs : List Char) : (skipBlanks cs).length ≤ cs.length :=
  (List.dropWhile_suffix (l := cs) _).length_le

/-! ### Escapes -/

def fourDigits : List Char → Reading Nat
  | a :: b :: c :: d :: rest =>
    match Chars.hexNumber? [a, b, c, d] with
    | some n => .ok (n, rest)
    | none => .error ⟨.invalidEscape, rest⟩
  | _ => .error ⟨.endOfString, []⟩

/-- The second half of a surrogate pair, with the first half `high` in front. -/
def lowSurrogate (high : Nat) : List Char → Reading Char
  | '\\' :: 'u' :: rest =>
    match fourDigits rest with
    | .error fault => .error fault
    | .ok (low, rest) =>
      if Charset.isLowSurrogate low then
        .ok (Char.ofNat (0x10000 + (high - 0xD800) * 0x400 + (low - 0xDC00)), rest)
      else .error ⟨.loneSurrogate, rest⟩
  | '\\' :: _ :: rest => .error ⟨.openSurrogate, rest⟩
  | ['\\'] => .error ⟨.endOfString, []⟩
  | _ :: rest => .error ⟨.openSurrogate, rest⟩
  | [] => .error ⟨.endOfString, []⟩

/-- The character of an escape, from behind its `u`. -/
def unicodeEscape (cs : List Char) : Reading Char :=
  match fourDigits cs with
  | .error fault => .error fault
  | .ok (n, rest) =>
    if Charset.isLowSurrogate n then .error ⟨.loneSurrogate, rest⟩
    else if Charset.isHighSurrogate n then lowSurrogate n rest
    else .ok (Char.ofNat n, rest)

def shortEscape? (c : Char) : Option Char :=
  if c = '"' || c = '\\' || c = '/' then some c
  else if c = 'b' then some '\x08'
  else if c = 'f' then some '\x0c'
  else if c = 'n' then some '\n'
  else if c = 'r' then some '\r'
  else if c = 't' then some '\t'
  else none

def escapeChar : List Char → Reading Char
  | [] => .error ⟨.endOfString, []⟩
  | 'u' :: rest => unicodeEscape rest
  | c :: rest =>
    match shortEscape? c with
    | some found => .ok (found, rest)
    | none => .error ⟨.invalidEscape, rest⟩

theorem fourDigits_length {cs : List Char} {found : Nat × List Char}
    (h : fourDigits cs = .ok found) : found.2.length ≤ cs.length := by
  unfold fourDigits at h
  split at h
  · split at h
    · cases h; simp only [List.length_cons]; omega
    · simp at h
  · simp at h

theorem lowSurrogate_length {high : Nat} {cs : List Char} {found : Char × List Char}
    (h : lowSurrogate high cs = .ok found) : found.2.length ≤ cs.length := by
  unfold lowSurrogate at h
  split at h
  · split at h
    · simp at h
    · rename_i hd
      have := fourDigits_length hd
      dsimp only at this
      split at h
      · have h := Except.ok.inj h
        subst h
        simp only [List.length_cons]; omega
      · simp at h
  · simp at h
  · simp at h
  · simp at h
  · simp at h

theorem unicodeEscape_length {cs : List Char} {found : Char × List Char}
    (h : unicodeEscape cs = .ok found) : found.2.length ≤ cs.length := by
  unfold unicodeEscape at h
  split at h
  · simp at h
  · rename_i hd
    have := fourDigits_length hd
    split at h
    · simp at h
    · split at h
      · exact Nat.le_trans (lowSurrogate_length h) this
      · cases h; exact this

theorem escapeChar_length {cs : List Char} {found : Char × List Char}
    (h : escapeChar cs = .ok found) : found.2.length ≤ cs.length := by
  unfold escapeChar at h
  split at h
  · simp at h
  · have := unicodeEscape_length h; simp only [List.length_cons]; omega
  · split at h
    · cases h; simp
    · simp at h

/-! ### Texts -/

def bytesOf (c : Char) : List Char :=
  ofBytes (String.utf8EncodeChar c)

/-- The bytes of a text from behind its opening quote. -/
def textBytes (cs : List Char) : Reading (List Char) :=
  match cs with
  | [] => .error ⟨.endOfString, []⟩
  | '"' :: rest => .ok ([], rest)
  | '\\' :: rest =>
    match _h : escapeChar rest with
    | .error fault => .error fault
    | .ok found =>
      match textBytes found.2 with
      | .error fault => .error fault
      | .ok body => .ok (bytesOf found.1 ++ body.1, body.2)
  | c :: rest =>
    if c.toNat < 0x20 then .error ⟨.controlCharacter, rest⟩
    else
      match textBytes rest with
      | .error fault => .error fault
      | .ok body => .ok (c :: body.1, body.2)
termination_by cs.length
decreasing_by
  · have := escapeChar_length _h; simp only [List.length_cons]; omega
  · simp

theorem textBytes_length {cs : List Char} {found : List Char × List Char}
    (h : textBytes cs = .ok found) : found.2.length ≤ cs.length := by
  fun_induction textBytes cs generalizing found with
  | case1 => simp at h
  | case2 => cases h; simp
  | case3 => simp at h
  | case4 => simp at h
  | case5 rest escape he body hb ih =>
    cases h
    have := ih hb
    have := escapeChar_length he
    simp only [List.length_cons]; omega
  | case6 => simp at h
  | case7 => simp at h
  | case8 _ _ _ _ _ body hb ih =>
    cases h
    have := ih hb
    simp only [List.length_cons]; omega

/-- The fault of a text with the given bytes, which are not UTF-8. Its place is as many bytes in
front of `rest` as there are from the first malformed sequence on; escapes are counted by the bytes
of their characters. -/
def utf8Fault (cs bytes rest : List Char) : Fault :=
  let valid := Charset.Decoded.validSize (Charset.utf8Text (toBytes bytes))
  ⟨.invalidUtf8, cs.drop (cs.length - (rest.length + (bytes.length - valid)))⟩

/-- A text from behind its opening quote. Its bytes must be UTF-8. -/
def text (cs : List Char) : Reading String :=
  match textBytes cs with
  | .error fault => .error fault
  | .ok (bytes, rest) =>
    match Charset.Decoded.text? (Charset.utf8Text (toBytes bytes)) with
    | some s => .ok (s, rest)
    | none => .error (utf8Fault cs bytes rest)

theorem text_length {cs : List Char} {found : String × List Char} (h : text cs = .ok found) :
    found.2.length ≤ cs.length := by
  unfold text at h
  split at h
  · simp at h
  · rename_i hb
    have := textBytes_length hb
    split at h
    · cases h; exact this
    · simp at h

/-! ### Values that are passed over -/

/-- What follows an escape that nobody looks at, from behind its backslash. -/
def skipEscape : List Char → Except Fault (List Char)
  | [] => .error ⟨.endOfString, []⟩
  | 'u' :: rest => (fourDigits rest).map Prod.snd
  | c :: rest => if (shortEscape? c).isSome then .ok rest else .error ⟨.invalidEscape, rest⟩

theorem skipEscape_length {cs rest : List Char} (h : skipEscape cs = .ok rest) :
    rest.length ≤ cs.length := by
  unfold skipEscape at h
  split at h
  · simp at h
  · rename_i r
    cases hd : fourDigits r with
    | error => rw [hd] at h; simp [Except.map] at h
    | ok found =>
      rw [hd] at h
      simp only [Except.map, Except.ok.injEq] at h
      have := fourDigits_length hd
      rw [← h]; simp only [List.length_cons]; omega
  · split at h
    · cases h; simp
    · simp at h

def skipText (cs : List Char) : Except Fault (List Char) :=
  match cs with
  | [] => .error ⟨.endOfString, []⟩
  | '"' :: rest => .ok rest
  | '\\' :: rest =>
    match _h : skipEscape rest with
    | .error fault => .error fault
    | .ok rest => skipText rest
  | c :: rest =>
    if c.toNat < 0x20 then .error ⟨.controlCharacter, c :: rest⟩ else skipText rest
termination_by cs.length
decreasing_by
  · have := skipEscape_length _h; simp only [List.length_cons]; omega
  · simp

theorem skipText_length {cs rest : List Char} (h : skipText cs = .ok rest) :
    rest.length ≤ cs.length := by
  fun_induction skipText cs with
  | case1 => simp at h
  | case2 => cases h; simp
  | case3 => simp at h
  | case4 _ _ he ih =>
    have := ih h
    have := skipEscape_length he
    simp only [List.length_cons]; omega
  | case5 => simp at h
  | case6 _ _ _ _ _ ih => have := ih h; simp only [List.length_cons]; omega

def skipWord : List Char → List Char → Except Fault (List Char)
  | [], cs => .ok cs
  | _ :: _, [] => .error ⟨.endOfValue, []⟩
  | letter :: letters, c :: rest =>
    if c = letter then skipWord letters rest else .error ⟨.identExpected, rest⟩

theorem skipWord_length {letters cs rest : List Char} (h : skipWord letters cs = .ok rest) :
    rest.length ≤ cs.length := by
  fun_induction skipWord letters cs with
  | case1 => cases h; simp
  | case2 => simp at h
  | case3 _ _ _ ih => have := ih h; simp only [List.length_cons]; omega
  | case4 => simp at h

def skipDigits (cs : List Char) : List Char :=
  cs.dropWhile Char.isDigit

theorem skipDigits_length (cs : List Char) : (skipDigits cs).length ≤ cs.length :=
  (List.dropWhile_suffix (l := cs) _).length_le

def startsWithDigit (cs : List Char) : Bool :=
  (cs.head?.map Char.isDigit).getD false

def skipSign : List Char → List Char
  | '+' :: rest => rest
  | '-' :: rest => rest
  | cs => cs

theorem skipSign_length (cs : List Char) : (skipSign cs).length ≤ cs.length := by
  unfold skipSign
  split <;> simp

/-- What follows the exponent of a number, from behind its mark. -/
def skipExponent (cs : List Char) : Except Fault (List Char) :=
  let unsigned := skipSign cs
  if startsWithDigit unsigned then .ok (skipDigits unsigned)
  else .error ⟨.invalidNumber, unsigned.drop 1⟩

/-- What follows the digits in front of the exponent of a number. -/
def skipPower : List Char → Except Fault (List Char)
  | 'e' :: rest => skipExponent rest
  | 'E' :: rest => skipExponent rest
  | cs => .ok cs

def skipFraction : List Char → Except Fault (List Char)
  | '.' :: rest =>
    if startsWithDigit rest then skipPower (skipDigits rest)
    else .error (.atNext .invalidNumber rest)
  | cs => skipPower cs

/-- What follows a number without its sign. -/
def skipNumber : List Char → Except Fault (List Char)
  | [] => .error ⟨.invalidNumber, []⟩
  | '0' :: rest =>
    if startsWithDigit rest then .error (.atNext .invalidNumber rest) else skipFraction rest
  | c :: rest =>
    if c.isDigit then skipFraction (skipDigits rest) else .error ⟨.invalidNumber, rest⟩

theorem skipExponent_length {cs rest : List Char} (h : skipExponent cs = .ok rest) :
    rest.length ≤ cs.length := by
  unfold skipExponent at h
  dsimp only at h
  split at h
  · cases h
    exact Nat.le_trans (skipDigits_length _) (skipSign_length cs)
  · simp at h

theorem skipPower_length {cs rest : List Char} (h : skipPower cs = .ok rest) :
    rest.length ≤ cs.length := by
  unfold skipPower at h
  split at h
  · have := skipExponent_length h; simp only [List.length_cons]; omega
  · have := skipExponent_length h; simp only [List.length_cons]; omega
  · cases h; simp

theorem skipFraction_length {cs rest : List Char} (h : skipFraction cs = .ok rest) :
    rest.length ≤ cs.length := by
  unfold skipFraction at h
  split at h
  · rename_i r
    split at h
    · have := skipPower_length h
      have := skipDigits_length r
      simp only [List.length_cons]; omega
    · simp at h
  · exact skipPower_length h

theorem skipNumber_length {cs rest : List Char} (h : skipNumber cs = .ok rest) :
    rest.length < cs.length := by
  unfold skipNumber at h
  split at h
  · simp at h
  · split at h
    · simp at h
    · have := skipFraction_length h; simp only [List.length_cons]; omega
  · rename_i r _
    split at h
    · have := skipFraction_length h
      have := skipDigits_length r
      simp only [List.length_cons]; omega
    · simp at h

/-- What is open around a value that is passed over. -/
inductive Frame where
  | list
  | object
  deriving DecidableEq, Repr

/-- What may come next inside a value that is passed over. -/
inductive Expected where
  /-- A value. -/
  | value
  /-- A value or the end of the list that was just opened. -/
  | valueOrEnd
  /-- A field. -/
  | field
  /-- A field or the end of the object that was just opened. -/
  | fieldOrEnd
  /-- A comma or the end of the innermost list or object. -/
  | commaOrEnd
  deriving DecidableEq, Repr

namespace Frame

def closing : Frame → Char
  | list => ']'
  | object => '\x7d'

def item : Frame → Expected
  | list => .value
  | object => .field

/-- The fault of a text that ends inside. -/
def openCause : Frame → Cause
  | list => .endOfList
  | object => .endOfObject

/-- The fault of an element that neither a comma nor the end follows. -/
def endCause : Frame → Cause
  | list => .listEndExpected
  | object => .objectEndExpected

end Frame

/-- A step inside a value that is passed over: what comes next, what is open, and the rest. -/
abbrev Passed := Expected × List Frame × List Char

/-- A value without parts, or the start of one with parts. -/
def passValue (frames : List Frame) : List Char → Except Fault Passed
  | [] => .error (.atNext .endOfValue [])
  | 'n' :: rest => (skipWord ['u', 'l', 'l'] rest).map (.commaOrEnd, frames, ·)
  | 't' :: rest => (skipWord ['r', 'u', 'e'] rest).map (.commaOrEnd, frames, ·)
  | 'f' :: rest => (skipWord ['a', 'l', 's', 'e'] rest).map (.commaOrEnd, frames, ·)
  | '-' :: rest => (skipNumber rest).map (.commaOrEnd, frames, ·)
  | '"' :: rest => (skipText rest).map (.commaOrEnd, frames, ·)
  | '[' :: rest => .ok (.valueOrEnd, .list :: frames, rest)
  | '\x7b' :: rest => .ok (.fieldOrEnd, .object :: frames, rest)
  | c :: rest =>
    if c.isDigit then (skipNumber (c :: rest)).map (.commaOrEnd, frames, ·)
    else .error (.atNext .valueExpected (c :: rest))

def passField (frames : List Frame) : List Char → Except Fault Passed
  | [] => .error (.atNext .endOfObject [])
  | '"' :: rest =>
    match skipText rest with
    | .error fault => .error fault
    | .ok rest =>
      match skipBlanks rest with
      | ':' :: rest => .ok (.value, frames, rest)
      | [] => .error (.atNext .endOfObject [])
      | rest => .error (.atNext .colonExpected rest)
  | rest => .error (.atNext .keyExpected rest)

def passEnd (frame : Frame) (outer : List Frame) : List Char → Except Fault Passed
  | [] => .error (.atNext frame.openCause [])
  | c :: rest =>
    if c = ',' then .ok (frame.item, frame :: outer, rest)
    else if c = frame.closing then .ok (.commaOrEnd, outer, rest)
    else .error (.atNext frame.endCause (c :: rest))

def passStep (expected : Expected) (frames : List Frame) (cs : List Char) :
    Except Fault Passed :=
  match expected, frames, skipBlanks cs with
  | .value, _, rest => passValue frames rest
  | .field, _, rest => passField frames rest
  | .valueOrEnd, _ :: outer, ']' :: rest => .ok (.commaOrEnd, outer, rest)
  | .valueOrEnd, _, [] => .error (.atNext .endOfList [])
  | .valueOrEnd, _, rest => passValue frames rest
  | .fieldOrEnd, _ :: outer, '\x7d' :: rest => .ok (.commaOrEnd, outer, rest)
  | .fieldOrEnd, _, rest => passField frames rest
  | .commaOrEnd, frame :: outer, rest => passEnd frame outer rest
  | .commaOrEnd, [], rest => .error (.atNext .trailingText rest)

theorem map_ok {α β : Type} {f : α → β} {r : Except Fault α} {b : β}
    (h : r.map f = .ok b) : ∃ a, r = .ok a ∧ f a = b := by
  cases r with
  | error => simp [Except.map] at h
  | ok a => exact ⟨a, rfl, Except.ok.inj h⟩

theorem passValue_length {frames : List Frame} {cs : List Char} {passed : Passed}
    (h : passValue frames cs = .ok passed) : passed.2.2.length < cs.length := by
  unfold passValue at h
  split at h
  · simp at h
  · obtain ⟨rest, hr, rfl⟩ := map_ok h
    have := skipWord_length hr; simp only [List.length_cons]; omega
  · obtain ⟨rest, hr, rfl⟩ := map_ok h
    have := skipWord_length hr; simp only [List.length_cons]; omega
  · obtain ⟨rest, hr, rfl⟩ := map_ok h
    have := skipWord_length hr; simp only [List.length_cons]; omega
  · obtain ⟨rest, hr, rfl⟩ := map_ok h
    have := skipNumber_length hr; simp only [List.length_cons]; omega
  · obtain ⟨rest, hr, rfl⟩ := map_ok h
    have := skipText_length hr; simp only [List.length_cons]; omega
  · cases h; simp
  · cases h; simp
  · split at h
    · obtain ⟨rest, hr, rfl⟩ := map_ok h
      exact skipNumber_length hr
    · simp at h

theorem passField_length {frames : List Frame} {cs : List Char} {passed : Passed}
    (h : passField frames cs = .ok passed) : passed.2.2.length < cs.length := by
  unfold passField at h
  split at h
  · simp at h
  · split at h
    · simp at h
    · rename_i rest ht
      have := skipText_length ht
      have hb := skipBlanks_length rest
      split at h
      · rename_i hc
        cases h
        rw [hc, List.length_cons] at hb
        simp only [List.length_cons]; omega
      · simp at h
      · simp at h
  · simp at h

theorem passEnd_length {frame : Frame} {outer : List Frame} {cs : List Char} {passed : Passed}
    (h : passEnd frame outer cs = .ok passed) : passed.2.2.length < cs.length := by
  unfold passEnd at h
  split at h
  · simp at h
  · split at h
    · cases h; simp
    · split at h
      · cases h; simp
      · simp at h

theorem passStep_length {expected : Expected} {frames : List Frame} {cs : List Char}
    {passed : Passed} (h : passStep expected frames cs = .ok passed) :
    passed.2.2.length < cs.length := by
  have hb := skipBlanks_length cs
  refine Nat.lt_of_lt_of_le ?_ hb
  unfold passStep at h
  split at h
  · exact passValue_length h
  · exact passField_length h
  · rename_i hc; rw [hc]; cases h; simp
  · simp at h
  · exact passValue_length h
  · rename_i hc; rw [hc]; cases h; simp
  · exact passField_length h
  · exact passEnd_length h
  · simp at h

/-- What follows a value that is passed over, from a place inside of it. -/
def passFrom (expected : Expected) (frames : List Frame) (cs : List Char) :
    Except Fault (List Char) :=
  if expected = .commaOrEnd && frames.isEmpty then .ok cs
  else
    match _h : passStep expected frames cs with
    | .error fault => .error fault
    | .ok passed => passFrom passed.1 passed.2.1 passed.2.2
termination_by cs.length
decreasing_by exact passStep_length _h

/-- What follows a value of any type, however deep it is nested. -/
def skipValue (cs : List Char) : Except Fault (List Char) :=
  passFrom .value [] cs

theorem passFrom_length {expected : Expected} {frames : List Frame} {cs rest : List Char}
    (h : passFrom expected frames cs = .ok rest) : rest.length ≤ cs.length := by
  fun_induction passFrom expected frames cs with
  | case1 => cases h; simp
  | case2 => simp at h
  | case3 _ _ _ _ _ hp ih =>
    have := ih h
    have := passStep_length hp
    omega

theorem skipValue_length {cs rest : List Char} (h : skipValue cs = .ok rest) :
    rest.length ≤ cs.length :=
  passFrom_length h

end CobolAtlas.JsonText
