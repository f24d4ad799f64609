import CobolAtlas.Disk
import CobolAtlas.JsonText.Value
import CobolAtlas.Path
import CobolAtlas.Scan

/-!
# Configuration

The settings of the program and how a configuration file gives them. The file is a JSON object with
one text per setting, in which unknown fields are passed over, or a list of texts in the order of
the settings. A setting that the file does not give keeps its default. Reading stops at the first
fault.
-/

namespace CobolAtlas

structure Config where
  /-- Where the report goes. -/
  resultPath : String := "cobol-xref-result.json"
  /-- Where the dictionary of tables is. -/
  dictionaryPath : String := "DbDefine.csv"
  /-- The label of the charset of sources. -/
  encoding : String := "Shift_JIS"
  /-- What a section name gets to make its exit label. -/
  exitSuffix : String := "-EXIT"
  deriving DecidableEq, Repr

inductive Setting where
  | resultPath
  | dictionaryPath
  | encoding
  | exitSuffix
  deriving DecidableEq, Repr

namespace Setting

/-- The settings in the order of a list. -/
def all : List Setting :=
  [resultPath, dictionaryPath, encoding, exitSuffix]

def name : Setting → String
  | resultPath => "result_path"
  | dictionaryPath => "dictionary_path"
  | encoding => "encoding"
  | exitSuffix => "exit_suffix"

/-- What the value of a setting is called in a message. -/
def expected : Setting → String
  | resultPath | dictionaryPath => "path string"
  | encoding | exitSuffix => "a string"

def ofName? (name : String) : Option Setting :=
  all.find? fun setting => setting.name = name

end Setting

/-- The settings that a file gives, the last one first. -/
abbrev GivenSettings := List (Setting × String)

namespace GivenSettings

def value? (given : GivenSettings) (setting : Setting) : Option String :=
  (given.find? fun entry => entry.1 = setting).map Prod.snd

/-- The configuration with the defaults for all that is not given. -/
def config (given : GivenSettings) : Config :=
  let defaults : Config := {}
  { resultPath := (value? given .resultPath).getD defaults.resultPath
    dictionaryPath := (value? given .dictionaryPath).getD defaults.dictionaryPath
    encoding := (value? given .encoding).getD defaults.encoding
    exitSuffix := (value? given .exitSuffix).getD defaults.exitSuffix }

end GivenSettings

namespace Config

open JsonText (Fault Reading skipBlanks)

/-! ### Settings in a text -/

def settingValue (setting : Setting) (cs : List Char) : Reading String :=
  match skipBlanks cs with
  | [] => .error (.atNext .endOfValue [])
  | '"' :: rest => JsonText.text rest
  | rest => .error (JsonText.misfit setting.expected rest)

theorem settingValue_length {setting : Setting} {cs : List Char} {found : String × List Char}
    (h : settingValue setting cs = .ok found) : found.2.length ≤ cs.length := by
  have hb := JsonText.skipBlanks_length cs
  unfold settingValue at h
  split at h
  · simp at h
  · rename_i hc
    have := JsonText.text_length h
    rw [hc, List.length_cons] at hb
    omega
  · simp at h

def behindColon (cs : List Char) : Except Fault (List Char) :=
  match skipBlanks cs with
  | [] => .error (.atNext .endOfObject [])
  | ':' :: rest => .ok rest
  | rest => .error (.atNext .colonExpected rest)

theorem behindColon_length {cs rest : List Char} (h : behindColon cs = .ok rest) :
    rest.length ≤ cs.length := by
  have hb := JsonText.skipBlanks_length cs
  unfold behindColon at h
  split at h
  · simp at h
  · rename_i hc
    cases h
    rw [hc, List.length_cons] at hb
    omega
  · simp at h

/-! ### An object -/

/-- What follows the quote of the next field name; nothing in front of the end of the object. -/
def nextName (isFirst : Bool) (cs : List Char) : Except Fault (Option (List Char)) :=
  match skipBlanks cs with
  | [] => .error (.atNext .endOfObject [])
  | c :: rest =>
    if c = '\x7d' then .ok none
    else if isFirst then
      if c = '"' then .ok (some rest) else .error (.atNext .keyExpected (c :: rest))
    else if c = ',' then
      match skipBlanks rest with
      | [] => .error (.atNext .endOfValue [])
      | d :: rest =>
        if d = '"' then .ok (some rest)
        else .error (.atNext (if d = '\x7d' then .trailingComma else .keyExpected) (d :: rest))
    else .error (.atNext .objectEndExpected (c :: rest))

theorem nextName_length {isFirst : Bool} {cs rest : List Char}
    (h : nextName isFirst cs = .ok (some rest)) : rest.length < cs.length := by
  have hb := JsonText.skipBlanks_length cs
  unfold nextName at h
  split at h
  · simp at h
  · rename_i c r hc
    rw [hc, List.length_cons] at hb
    split at h
    · simp at h
    · split at h
      · split at h
        · cases h; omega
        · simp at h
      · split at h
        · have hb' := JsonText.skipBlanks_length r
          split at h
          · simp at h
          · rename_i hd
            rw [hd, List.length_cons] at hb'
            split at h
            · cases h; omega
            · simp at h
        · simp at h

/-- What is left when a repeated field is found: the end of the object is still looked for. -/
def afterRepeated (cs : List Char) : List Char :=
  match skipBlanks cs with
  | '\x7d' :: rest => rest
  | rest => rest

def field (given : GivenSettings) (name : String) (cs : List Char) : Reading GivenSettings :=
  match Setting.ofName? name with
  | none =>
    match behindColon cs with
    | .error fault => .error fault
    | .ok rest => (JsonText.skipValue rest).map (given, ·)
  | some setting =>
    if (given.value? setting).isSome then .error ⟨.repeatedField name, afterRepeated cs⟩
    else
      match behindColon cs with
      | .error fault => .error fault
      | .ok rest =>
        (settingValue setting rest).map fun found => ((setting, found.1) :: given, found.2)

theorem field_length {given : GivenSettings} {name : String} {cs : List Char}
    {found : GivenSettings × List Char} (h : field given name cs = .ok found) :
    found.2.length ≤ cs.length := by
  unfold field at h
  split at h
  · split at h
    · simp at h
    · rename_i hc
      obtain ⟨rest, hr, rfl⟩ := JsonText.map_ok h
      exact Nat.le_trans (JsonText.skipValue_length hr) (behindColon_length hc)
  · split at h
    · simp at h
    · split at h
      · simp at h
      · rename_i hc
        obtain ⟨value, hv, rfl⟩ := JsonText.map_ok h
        exact Nat.le_trans (settingValue_length hv) (behindColon_length hc)

/-- The fields of an object from behind its opening mark or from behind a field. -/
def fields (given : GivenSettings) (isFirst : Bool) (cs : List Char) : Reading GivenSettings :=
  match _h : nextName isFirst cs with
  | .error fault => .error fault
  | .ok none => .ok (given, (skipBlanks cs).drop 1)
  | .ok (some behindQuote) =>
    match _ht : JsonText.text behindQuote with
    | .error fault => .error fault
    | .ok named =>
      match _hf : field given named.1 named.2 with
      | .error fault => .error fault
      | .ok found => fields found.1 false found.2
termination_by cs.length
decreasing_by
  have := nextName_length _h
  have := JsonText.text_length _ht
  have := field_length _hf
  omega

/-! ### A list -/

def behindElements (cs : List Char) : Except Fault (List Char) :=
  match skipBlanks cs with
  | [] => .error (.atNext .endOfList [])
  | c :: rest =>
    if c = ']' then .ok rest
    else if c = ',' then
      let behind := skipBlanks rest
      .error (.atNext (if behind.head? = some ']' then .trailingComma else .trailingText) behind)
    else .error (.atNext .trailingText (c :: rest))

/-- Where the next element starts; nothing in front of the end of the list. -/
def nextElement (isFirst : Bool) (cs : List Char) : Except Fault (Option (List Char)) :=
  match skipBlanks cs with
  | [] => .error (.atNext .endOfList [])
  | c :: rest =>
    if c = ']' then .ok none
    else if isFirst then .ok (some (c :: rest))
    else if c = ',' then
      match skipBlanks rest with
      | [] => .error (.atNext .endOfValue [])
      | d :: rest =>
        if d = ']' then .error (.atNext .trailingComma (d :: rest)) else .ok (some (d :: rest))
    else .error (.atNext .listEndExpected (c :: rest))

/-- The elements of a list, one for each setting, from behind its opening mark or an element. -/
def elements (given : GivenSettings) (isFirst : Bool) : List Setting → List Char →
    Reading GivenSettings
  | [], cs => (behindElements cs).map (given, ·)
  | setting :: settings, cs =>
    match nextElement isFirst cs with
    | .error fault => .error fault
    | .ok none => (behindElements cs).map (given, ·)
    | .ok (some start) =>
      match settingValue setting start with
      | .error fault => .error fault
      | .ok (value, rest) => elements ((setting, value) :: given) false settings rest

/-! ### A file -/

def settings (cs : List Char) : Reading GivenSettings :=
  match skipBlanks cs with
  | [] => .error (.atNext .endOfValue [])
  | c :: rest =>
    if c = '\x7b' then fields [] true rest
    else if c = '[' then elements [] true Setting.all rest
    else .error (JsonText.misfit "struct Config" (c :: rest))

/-- The configuration that a text gives. Nothing but blanks may follow the value. -/
def ofChars (cs : List Char) : Except Fault Config :=
  match settings cs with
  | .error fault => .error fault
  | .ok (given, rest) =>
    match skipBlanks rest with
    | [] => .ok given.config
    | rest => .error (.atNext .trailingText rest)

end Config

inductive ConfigFault where
  | unreadable (path : String) (fault : DiskFault)
  /-- The bytes of the file make no configuration. -/
  | unusable (path : String) (bytes : List Char) (fault : JsonText.Fault)
  deriving DecidableEq, Repr

namespace ConfigFault

def summary : ConfigFault → String
  | unreadable path _ => "Failed to read config: " ++ path
  | unusable path _ _ => "Failed to parse config: " ++ path

def message (fault : ConfigFault) : String :=
  match fault with
  | unreadable _ cause => fault.summary ++ ": " ++ cause.message
  | unusable _ bytes cause => fault.summary ++ ": " ++ cause.message bytes

end ConfigFault

namespace Config

variable {m : Type → Type} [Monad m]

def fileName : String := ".cobol-xref.json"

def load (disk : Disk m) (path : String) : m (Except ConfigFault Config) := do
  match ← disk.read path with
  | .error fault => return .error (.unreadable path fault)
  | .ok bytes =>
    let cs := JsonText.ofBytes bytes
    match ofChars cs with
    | .error fault => return .error (.unusable path cs fault)
    | .ok config => return .ok config

/-- The configuration of a file that was asked for, else of the one in a directory, else the
defaults. -/
def resolve (disk : Disk m) (asked : Option String) (directory : String) :
    m (Except ConfigFault Config) := do
  match asked with
  | some path => load disk path
  | none =>
    let path := Path.join directory fileName
    if ← disk.isPresent path then load disk path else return .ok {}

def scanOptions (config : Config) : ScanOptions :=
  { exitSuffix := config.exitSuffix }

def charset? (config : Config) : Option Charset :=
  Charset.ofLabel? config.encoding

end Config

end CobolAtlas
