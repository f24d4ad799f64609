import CobolAtlas.Sql.Lexeme

/-!
# Quoted lexemes

Literals and quoted words. Each reader takes the characters behind an opening mark and gives the
content and what follows the closing mark. The rest is never longer than what was given, which is
what the lexer needs to come to an end.
-/

namespace CobolAtlas.Sql.Lexeme

def withFirst (c : Char) (body : List Char × List Char) : List Char × List Char :=
  (c :: body.1, body.2)

@[simp] theorem withFirst_snd (c : Char) (body : List Char × List Char) :
    (withFirst c body).2 = body.2 := rfl

/-! ### Between single marks -/

/-- What a character behind a backslash stands for. -/
def backslashed (c : Char) : Char :=
  if c = '0' then '\x00'
  else if c = 'a' then '\x07'
  else if c = 'b' then '\x08'
  else if c = 'f' then '\x0c'
  else if c = 'n' then '\n'
  else if c = 'r' then '\r'
  else if c = 't' then '\t'
  else if c = 'Z' then '\x1a'
  else c

/-- The content up to the next `quote`, where a doubled quote is one quote of the content. With
`escapes` a backslash takes the character behind it into the content. -/
def body? (escapes : Bool) (quote : Char) : List Char → Option (List Char × List Char)
  | [] => none
  | [c] => if c = quote then some ([], []) else none
  | c :: d :: rest =>
    if c = quote then
      if d = quote then (body? escapes quote rest).map (withFirst quote) else some ([], d :: rest)
    else if escapes && c = '\\' then (body? escapes quote rest).map (withFirst (backslashed d))
    else (body? escapes quote (d :: rest)).map (withFirst c)

theorem body?_length {escapes : Bool} {quote : Char} {cs : List Char}
    {body : List Char × List Char} (h : body? escapes quote cs = some body) :
    body.2.length ≤ cs.length := by
  fun_induction body? escapes quote cs generalizing body with
  | case1 => simp at h
  | case2 => simp_all; simp [← h]
  | case3 => simp at h
  | case4 _ ih =>
    obtain ⟨b, hb, rfl⟩ := Option.map_eq_some_iff.1 h
    have := ih hb
    simp only [withFirst_snd, List.length_cons]; omega
  | case5 => simp_all; simp [← h]
  | case6 _ _ _ _ _ ih =>
    obtain ⟨b, hb, rfl⟩ := Option.map_eq_some_iff.1 h
    have := ih hb
    simp only [withFirst_snd, List.length_cons]; omega
  | case7 _ _ _ _ _ ih =>
    obtain ⟨b, hb, rfl⟩ := Option.map_eq_some_iff.1 h
    have := ih hb
    simp only [withFirst_snd, List.length_cons] at *; omega

/-! ### Between three marks -/

def tripleBody? (quote : Char) : List Char → Option (List Char × List Char)
  | a :: b :: c :: rest =>
    if a = quote && b = quote && c = quote then some ([], rest)
    else (tripleBody? quote (b :: c :: rest)).map (withFirst a)
  | _ => none

theorem tripleBody?_length {quote : Char} {cs : List Char} {body : List Char × List Char}
    (h : tripleBody? quote cs = some body) : body.2.length ≤ cs.length := by
  fun_induction tripleBody? quote cs generalizing body with
  | case1 => simp_all; simp [← h]; omega
  | case2 _ _ _ _ _ ih =>
    obtain ⟨b, hb, rfl⟩ := Option.map_eq_some_iff.1 h
    have := ih hb
    simp only [withFirst_snd, List.length_cons] at *; omega
  | case3 => simp at h

/-! ### Escapes that spell a character by its number -/

def octalValue? (c : Char) : Option Nat :=
  if '0' ≤ c && c ≤ '7' then some (c.toNat - '0'.toNat) else none

/-- A number may have a plus sign. -/
def signedHexNumber? : List Char → Option Nat
  | '+' :: digits => Chars.hexNumber? digits
  | digits => Chars.hexNumber? digits

def charOf? (n : Nat) : Option Char :=
  if n.isValidChar then some (Char.ofNat n) else none

/-- The ASCII character of a number modulo 256. -/
def byteChar? (n : Nat) : Option Char :=
  if n % 256 ≤ 127 then some (Char.ofNat (n % 256)) else none

/-- The character that exactly `n` characters spell. -/
def spelled? (n : Nat) (cs : List Char) : Option (Char × List Char) :=
  if n ≤ cs.length then
    match (signedHexNumber? (cs.take n)).bind charOf? with
    | some c => some (c, cs.drop n)
    | none => none
  else none

def digitsUpTo (limit : Nat) (isDigit : Char → Bool) (cs : List Char) : List Char :=
  (cs.take limit).takeWhile isDigit

def byteEscape? (base : Nat) (value? : Char → Option Nat) (limit : Nat) (cs : List Char) :
    Option (Char × List Char) :=
  let digits := digitsUpTo limit (fun c => (value? c).isSome) cs
  let value := digits.foldl (fun n c => n * base + (value? c).getD 0) 0
  (byteChar? value).map fun c => (c, cs.drop digits.length)

/-- The character that an escape of an `E` literal spells, from behind its backslash. -/
def escape? : List Char → Option (Char × List Char)
  | [] => none
  | 'b' :: rest => some ('\x08', rest)
  | 'f' :: rest => some ('\x0c', rest)
  | 'n' :: rest => some ('\n', rest)
  | 'r' :: rest => some ('\r', rest)
  | 't' :: rest => some ('\t', rest)
  | 'u' :: rest => spelled? 4 rest
  | 'U' :: rest => spelled? 8 rest
  | 'x' :: rest =>
    match digitsUpTo 2 Chars.isHexDigit rest with
    | [] => some ('x', rest)
    | _ => byteEscape? 16 Chars.hexValue? 2 rest
  | c :: rest => if (octalValue? c).isSome then byteEscape? 8 octalValue? 3 (c :: rest)
    else some (c, rest)

theorem spelled?_length {n : Nat} {cs : List Char} {found : Char × List Char}
    (h : spelled? n cs = some found) : found.2.length ≤ cs.length := by
  unfold spelled? at h
  split at h
  · split at h
    · cases h; simp
    · simp at h
  · simp at h

theorem byteEscape?_length {base limit : Nat} {value? : Char → Option Nat} {cs : List Char}
    {found : Char × List Char} (h : byteEscape? base value? limit cs = some found) :
    found.2.length ≤ cs.length := by
  obtain ⟨c, _, rfl⟩ := Option.map_eq_some_iff.1 h
  simp

theorem escape?_length {cs : List Char} {found : Char × List Char} (h : escape? cs = some found) :
    found.2.length ≤ cs.length := by
  unfold escape? at h
  split at h
  · simp at h
  · cases h; simp
  · cases h; simp
  · cases h; simp
  · cases h; simp
  · cases h; simp
  · have := spelled?_length h; simp only [List.length_cons]; omega
  · have := spelled?_length h; simp only [List.length_cons]; omega
  · split at h
    · cases h; simp
    · have := byteEscape?_length h; simp only [List.length_cons]; omega
  · split at h
    · exact byteEscape?_length h
    · cases h; simp

/-! ### `E` literals -/

/-- The content of an `E` literal, from behind its opening quote. No escape may spell the character
NUL. -/
def escapeBody? (cs : List Char) : Option (List Char × List Char) :=
  match cs with
  | [] => none
  | '\'' :: '\'' :: rest => (escapeBody? rest).map (withFirst '\'')
  | '\'' :: rest => some ([], rest)
  | '\\' :: rest =>
    match _hf : escape? rest with
    | none => none
    | some found =>
      if found.1 = '\x00' then none else (escapeBody? found.2).map (withFirst found.1)
  | c :: rest => (escapeBody? rest).map (withFirst c)
termination_by cs.length
decreasing_by
  · simp only [List.length_cons]; omega
  · have := escape?_length _hf; simp only [List.length_cons]; omega
  · simp

theorem escapeBody?_length {cs : List Char} {body : List Char × List Char}
    (h : escapeBody? cs = some body) : body.2.length ≤ cs.length := by
  fun_induction escapeBody? cs generalizing body with
  | case1 => simp at h
  | case2 rest ih =>
    obtain ⟨b, hb, rfl⟩ := Option.map_eq_some_iff.1 h
    have := ih hb
    simp only [withFirst_snd, List.length_cons]; omega
  | case3 => cases h; simp
  | case4 => simp at h
  | case5 => simp at h
  | case6 rest found hf _ ih =>
    obtain ⟨b, hb, rfl⟩ := Option.map_eq_some_iff.1 h
    have := ih hb
    have := escape?_length hf
    simp only [withFirst_snd, List.length_cons]; omega
  | case7 c rest _ _ _ ih =>
    obtain ⟨b, hb, rfl⟩ := Option.map_eq_some_iff.1 h
    have := ih hb
    simp only [withFirst_snd, List.length_cons]; omega

/-! ### `U&` literals -/

/-- Reads exactly `n` hexadecimal digits behind a number. -/
def hexDigits : Nat → Nat → List Char → Except LexFault (Nat × List Char)
  | 0, value, cs => .ok (value, cs)
  | _ + 1, _, [] => .error ⟨.endOfHexDigits, []⟩
  | n + 1, value, c :: rest =>
    match Chars.hexValue? c with
    | some digit => hexDigits n (value * 16 + digit) rest
    | none => .error ⟨.hexDigit c, rest⟩

theorem hexDigits_length {n value : Nat} {cs : List Char} {found : Nat × List Char}
    (h : hexDigits n value cs = .ok found) : found.2.length ≤ cs.length := by
  fun_induction hexDigits n value cs with
  | case1 => cases h; simp
  | case2 => simp at h
  | case3 _ _ _ _ _ _ ih => have := ih h; simp only [List.length_cons]; omega
  | case4 => simp at h

def codePoint (n : Nat) (cs : List Char) : Except LexFault (Char × List Char) :=
  match hexDigits n 0 cs with
  | .error fault => .error fault
  | .ok (value, rest) =>
    match charOf? value with
    | some c => .ok (c, rest)
    | none => .error ⟨.codePoint value, rest⟩

theorem codePoint_length {n : Nat} {cs : List Char} {found : Char × List Char}
    (h : codePoint n cs = .ok found) : found.2.length ≤ cs.length := by
  unfold codePoint at h
  split at h
  · simp at h
  · rename_i hd
    have := hexDigits_length hd
    split at h
    · cases h; exact this
    · simp at h

/-- The character that an escape of a `U&` literal spells, from behind its backslash. -/
def unicodeEscape : List Char → Except LexFault (Char × List Char)
  | '\\' :: rest => .ok ('\\', rest)
  | '+' :: rest => codePoint 6 rest
  | cs => codePoint 4 cs

theorem unicodeEscape_length {cs : List Char} {found : Char × List Char}
    (h : unicodeEscape cs = .ok found) : found.2.length ≤ cs.length := by
  unfold unicodeEscape at h
  split at h
  · cases h; simp
  · have := codePoint_length h; simp only [List.length_cons]; omega
  · exact codePoint_length h

def unicodeBody (cs : List Char) : Except LexFault (List Char × List Char) :=
  match cs with
  | [] => .error ⟨.openUnicodeString, []⟩
  | '\'' :: '\'' :: rest => (unicodeBody rest).map (withFirst '\'')
  | '\'' :: rest => .ok ([], rest)
  | '\\' :: rest =>
    match _hf : unicodeEscape rest with
    | .error fault => .error fault
    | .ok found => (unicodeBody found.2).map (withFirst found.1)
  | c :: rest => (unicodeBody rest).map (withFirst c)
termination_by cs.length
decreasing_by
  · simp only [List.length_cons]; omega
  · have := unicodeEscape_length _hf; simp only [List.length_cons]; omega
  · simp

theorem map_withFirst_ok {c : Char} {r : Except LexFault (List Char × List Char)}
    {body : List Char × List Char} (h : r.map (withFirst c) = .ok body) :
    ∃ b, r = .ok b ∧ body.2 = b.2 := by
  cases r with
  | error => simp [Except.map] at h
  | ok b => simp only [Except.map, Except.ok.injEq] at h; exact ⟨b, rfl, by rw [← h]; rfl⟩

theorem unicodeBody_length {cs : List Char} {body : List Char × List Char}
    (h : unicodeBody cs = .ok body) : body.2.length ≤ cs.length := by
  fun_induction unicodeBody cs generalizing body with
  | case1 => simp at h
  | case2 rest ih =>
    obtain ⟨b, hb, hr⟩ := map_withFirst_ok h
    have := ih hb
    simp only [hr, List.length_cons]; omega
  | case3 => cases h; simp
  | case4 => simp at h
  | case5 rest found hf ih =>
    obtain ⟨b, hb, hr⟩ := map_withFirst_ok h
    have := ih hb
    have := unicodeEscape_length hf
    simp only [hr, List.length_cons]; omega
  | case6 c rest _ _ _ ih =>
    obtain ⟨b, hb, hr⟩ := map_withFirst_ok h
    have := ih hb
    simp only [hr, List.length_cons]; omega

/-! ### Dollar literals -/

/-- The content up to the next `mark`. -/
def bodyUntil? (mark : List Char) : List Char → Option (List Char × List Char)
  | [] => none
  | c :: rest =>
    if mark.isPrefixOf (c :: rest) then some ([], (c :: rest).drop mark.length)
    else (bodyUntil? mark rest).map (withFirst c)

theorem bodyUntil?_length {mark cs : List Char} {body : List Char × List Char}
    (h : bodyUntil? mark cs = some body) : body.2.length ≤ cs.length := by
  fun_induction bodyUntil? mark cs generalizing body with
  | case1 => simp at h
  | case2 => cases h; simp
  | case3 c rest _ ih =>
    obtain ⟨b, hb, rfl⟩ := Option.map_eq_some_iff.1 h
    have := ih hb
    simp only [withFirst_snd, List.length_cons]; omega

/-! ### Comments -/

/-- What follows a comment of nested `/*` and `*/`, from behind `depth + 1` opening marks. -/
def afterComment? : Nat → List Char → Option (List Char)
  | _, [] => none
  | depth, '/' :: '*' :: rest => afterComment? (depth + 1) rest
  | 0, '*' :: '/' :: rest => some rest
  | depth + 1, '*' :: '/' :: rest => afterComment? depth rest
  | depth, _ :: rest => afterComment? depth rest

theorem afterComment?_length {depth : Nat} {cs rest : List Char}
    (h : afterComment? depth cs = some rest) : rest.length ≤ cs.length := by
  fun_induction afterComment? depth cs with
  | case1 => simp at h
  | case2 _ _ ih => have := ih h; simp only [List.length_cons]; omega
  | case3 => cases h; simp only [List.length_cons]; omega
  | case4 _ _ ih => have := ih h; simp only [List.length_cons]; omega
  | case5 _ _ _ _ _ _ ih => have := ih h; simp only [List.length_cons]; omega

end CobolAtlas.Sql.Lexeme
