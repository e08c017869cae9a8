import AntiForgery.Proofs.Config
import AntiForgery.Proofs.Text.Blank
import AntiForgery.Proofs.Text.Hex
import AntiForgery.Proofs.Text.Numeral
import Mathlib

/-!
# Which settings give a configuration

Five settings can hold a fault, and each is judged by the value of its own variable.  There is a
configuration exactly when all five fit.  Otherwise the first that does not fit, in the order in which they
are read, decides the error alone.
-/

namespace AntiForgery

namespace Text

/-- The letter of a word in lower case, in either case. -/
def IsLetter (char letter : Char) : Prop :=
  char = letter ∨ char = letter.toUpper

/-- In lower case a character is a letter exactly if it is that letter in either case. -/
theorem toLower_eq_iff {char letter : Char} (lower : letter.isLower = true) :
    char.toLower = letter ↔ IsLetter char letter := by
  constructor
  · rintro rfl
    by_cases upper : char.isUpper = true
    · right
      rw [Char.toUpper_toLower_eq_toUpper,
        Char.toUpper_eq_of_not_isLower (Char.not_isLower_of_isUpper upper)]
    · left
      rw [Char.toLower_eq_of_not_isUpper upper]
  · have kept : letter.toLower = letter :=
      Char.toLower_eq_of_not_isUpper (Char.not_isUpper_of_isLower lower)
    rintro (rfl | rfl)
    · exact kept
    · rw [Char.toLower_toUpper_eq_toLower, kept]

/-- In lower case a text is a word exactly if it spells the word in letters of either case. -/
theorem map_toLower_eq_iff
    {chars word : List Char}
    (lower : ∀ letter ∈ word, letter.isLower = true) :
    chars.map Char.toLower = word ↔ List.Forall₂ IsLetter chars word := by
  induction word generalizing chars with
  | nil => rw [List.map_eq_nil_iff, List.forall₂_nil_right_iff]
  | cons letter word ih =>
      obtain ⟨first, rest⟩ := List.forall_mem_cons.mp lower
      cases chars with
      | nil => simp
      | cons char chars =>
          rw [List.map_cons, List.cons.injEq, toLower_eq_iff first, ih rest, List.forall₂_cons]

end Text

/-- The word for a place to keep records. -/
def Backend.word : Backend → String
  | .redis => "redis"
  | .memory => "memory"

namespace Config

/-! ### What the values say -/

/-- The text spells the secret in hexadecimal, with nothing but white space around it. -/
def SpellsSecret (text : String) (secret : List UInt8) : Prop :=
  ∃ digits, Text.Trims text.toList digits ∧ Hex.Denotes digits secret

/-- The text denotes an integer between one and a limit. -/
def SpellsUpTo (limit : Int) (text : String) : Prop :=
  ∃ number, Integer.Denotes text.toList number ∧ 1 ≤ number ∧ number ≤ limit

/-- The text is the word for a place to keep records, each letter in either case. -/
def SpellsBackend (text : String) (backend : Backend) : Prop :=
  List.Forall₂ Text.IsLetter text.toList backend.word.toList

/-- A setting that can hold a fault. -/
inductive Setting where
  /-- The secret under which tokens are sealed. -/
  | secret
  /-- How many seconds a token is good for. -/
  | tokenWindow
  /-- How many days a session lasts. -/
  | sessionDays
  /-- Where records are kept. -/
  | backend
  /-- The address to listen on. -/
  | bindAddress
  deriving DecidableEq, Repr

namespace Setting

/-- The settings in the order in which they are read. -/
def all : List Setting :=
  [.secret, .tokenWindow, .sessionDays, .backend, .bindAddress]

theorem mem_all (setting : Setting) : setting ∈ all := by
  cases setting <;> decide

/-- The variable that holds a setting. -/
def name : Setting → String
  | .secret => "CSRF_SECRET"
  | .tokenWindow => "CSRF_EXPIRE_SECONDS"
  | .sessionDays => "SESSION_DURATION_DAYS"
  | .backend => "STORE_BACKEND"
  | .bindAddress => "BIND_ADDR"

/-- The value of its variable, if that is set, gives a setting.  Only the secret has to be set. -/
def Fits : Setting → Option String → Prop
  | .secret, value =>
      ∃ text secret,
        value = some text ∧ SpellsSecret text secret ∧ secret.length ∈ Cipher.secretSizes
  | .tokenWindow, value => ∀ text, value = some text → SpellsUpTo 2592000 text
  | .sessionDays, value => ∀ text, value = some text → SpellsUpTo 365 text
  | .backend, value => ∀ text, value = some text → ∃ backend, SpellsBackend text backend
  | .bindAddress, value =>
      ∀ text, value = some text → ∃ address, Net.SocketAddress.parse? text = some address

/-- The largest integer that a setting takes, if it takes integers. -/
def limit? : Setting → Option Int64
  | .tokenWindow => some 2592000
  | .sessionDays => some 365
  | _ => none

/-- The error that a value of its variable is for a setting. -/
inductive Faulty : Setting → Option String → Error → Prop
  | secretMissing : Faulty .secret none .secretMissing
  | secretNotHex
      {text : String}
      {fault : Hex.DecodeError}
      (unread : Hex.decode (Text.utf8 (Text.trim text)) = .error fault) :
      Faulty .secret (some text) (.secretNotHex fault)
  | secretSize
      {text : String}
      {secret : List UInt8}
      (spells : SpellsSecret text secret)
      (size : secret.length ∉ Cipher.secretSizes) :
      Faulty .secret (some text) .secretSize
  | notInteger
      {setting : Setting}
      {limit : Int64}
      {text : String}
      {fault : Integer.ParseError}
      (limited : setting.limit? = some limit)
      (unread : Integer.parse text = .error fault) :
      Faulty setting (some text) (.notInteger setting.name fault)
  | outOfRange
      {setting : Setting}
      {limit number : Int64}
      {text : String}
      (limited : setting.limit? = some limit)
      (denotes : Integer.Denotes text.toList number.toInt)
      (outside : number < 1 ∨ limit < number) :
      Faulty setting (some text) (.outOfRange setting.name limit)
  | unknownBackend
      {text : String}
      (unknown : ∀ backend, ¬ SpellsBackend text backend) :
      Faulty .backend (some text)
        (.unknownBackend (String.ofList (text.toList.map Char.toLower)))
  | badAddress
      {text : String}
      (unread : Net.SocketAddress.parse? text = none) :
      Faulty .bindAddress (some text) .badAddress

end Setting

/-- What an integer of a configuration is, given the value of its variable. -/
def HoldsInteger (value : Option String) (default held : Int64) : Prop :=
  match value with
  | none => held = default
  | some text => ∀ number, Integer.Denotes text.toList number ↔ number = held.toInt

/-- The configuration holds exactly what the variables say. -/
structure Holds (lookup : Lookup) (config : Config) : Prop where
  secret : ∃ text,
    lookup "CSRF_SECRET" = some text ∧
      ∀ secret, SpellsSecret text secret ↔ secret = config.secret
  tokenWindow : HoldsInteger (lookup "CSRF_EXPIRE_SECONDS") 3600 config.tokenWindow
  sessionDays : HoldsInteger (lookup "SESSION_DURATION_DAYS") 7 config.sessionDays
  backend :
    (lookup "STORE_BACKEND" = none ∧ config.backend = .redis) ∨
      ∃ text, lookup "STORE_BACKEND" = some text ∧ SpellsBackend text config.backend
  bindAddress :
    (lookup "BIND_ADDR" = none ∧ config.bindAddress = .four [127, 0, 0, 1] 3000) ∨
      ∃ text,
        lookup "BIND_ADDR" = some text ∧
          Net.SocketAddress.parse? text = some config.bindAddress

/-! ### What the readers find -/

theorem decode_trim_eq_ok_iff {text : String} {secret : List UInt8} :
    Hex.decode (Text.utf8 (Text.trim text)) = .ok secret ↔ SpellsSecret text secret := by
  rw [Hex.decode_eq_ok_iff, Text.trim, String.toList_ofList]
  simp only [SpellsSecret, Text.trims_iff, exists_eq_left]

/-- A secret is read exactly if it is set, spelt in digits and of a size that keys the cipher. -/
theorem readSecret_eq_ok_iff {lookup : Lookup} {secret : List UInt8} :
    readSecret lookup = .ok secret ↔
      ∃ text,
        lookup "CSRF_SECRET" = some text ∧ SpellsSecret text secret ∧
          secret.length ∈ Cipher.secretSizes := by
  rw [readSecret]
  cases value : lookup "CSRF_SECRET" with
  | none => simp
  | some text =>
      cases read : Hex.decode (Text.utf8 (Text.trim text)) with
      | error fault => simp [← decode_trim_eq_ok_iff, read]
      | ok found =>
          simp only [Option.some.injEq, exists_eq_left', ← decode_trim_eq_ok_iff, read,
            Except.ok.injEq]
          grind

theorem faulty_of_readSecret {lookup : Lookup} {error : Error}
    (refused : readSecret lookup = .error error) :
    Setting.Faulty .secret (lookup "CSRF_SECRET") error := by
  rw [readSecret] at refused
  cases value : lookup "CSRF_SECRET" with
  | none =>
      rw [value] at refused
      cases refused
      exact .secretMissing
  | some text =>
      simp only [value] at refused
      cases read : Hex.decode (Text.utf8 (Text.trim text)) with
      | error fault =>
          simp only [read] at refused
          cases refused
          exact .secretNotHex read
      | ok found =>
          simp only [read] at refused
          split at refused
          · cases refused
          · next size =>
              cases refused
              exact .secretSize (decode_trim_eq_ok_iff.mp read) size

/-- A number is read exactly if it is left out, or set to a text that denotes it within its bounds. -/
theorem readInteger_eq_ok_iff {lookup : Lookup} {name : String} {default limit value : Int64} :
    readInteger lookup name default limit = .ok value ↔
      (lookup name = none ∧ value = default) ∨
        ∃ text,
          lookup name = some text ∧ Integer.Denotes text.toList value.toInt ∧
            1 ≤ value ∧ value ≤ limit := by
  rw [readInteger]
  cases set : lookup name with
  | none => simp [eq_comm]
  | some text =>
      cases read : Integer.parse text with
      | error fault => simp [← Integer.parse_eq_ok_iff, read]
      | ok found =>
          simp only [← Integer.parse_eq_ok_iff, read]
          grind

theorem faulty_of_readInteger
    {lookup : Lookup}
    {setting : Setting}
    {default limit : Int64}
    (limited : setting.limit? = some limit)
    {error : Error}
    (refused : readInteger lookup setting.name default limit = .error error) :
    setting.Faulty (lookup setting.name) error := by
  rw [readInteger] at refused
  cases value : lookup setting.name with
  | none =>
      rw [value] at refused
      cases refused
  | some text =>
      simp only [value] at refused
      cases read : Integer.parse text with
      | error fault =>
          simp only [read] at refused
          cases refused
          exact .notInteger limited read
      | ok number =>
          simp only [read] at refused
          split at refused
          · cases refused
          · next outside =>
              cases refused
              refine .outOfRange limited (Integer.parse_eq_ok_iff.mp read) ?_
              rwa [not_and_or, Int64.not_le, Int64.not_le] at outside

/-- An integer can be read exactly if the text denotes one up to the limit: such an integer fits in
sixty-four bits, so it does not matter how long the text is. -/
theorem exists_readInteger_iff {lookup : Lookup} {name : String} {default limit : Int64} :
    (∃ value, readInteger lookup name default limit = .ok value) ↔
      ∀ text, lookup name = some text → SpellsUpTo limit.toInt text := by
  constructor
  · rintro ⟨value, read⟩ text set
    rcases readInteger_eq_ok_iff.mp read with ⟨unset, _⟩ | ⟨found, same, denotes, least, most⟩
    · rw [set] at unset
      cases unset
    · obtain rfl := Option.some.inj (set.symm.trans same)
      exact ⟨value.toInt, denotes, Int64.le_iff_toInt_le.mp least, Int64.le_iff_toInt_le.mp most⟩
  · intro spells
    cases value : lookup name with
    | none => exact ⟨default, readInteger_eq_ok_iff.mpr (.inl ⟨value, rfl⟩)⟩
    | some text =>
        obtain ⟨number, denotes, least, most⟩ := spells text value
        have same : (Int64.ofInt number).toInt = number := by
          have fits := Integer.fits_iff.mp (Integer.fits_toInt limit)
          apply Integer.toInt_ofInt_of_fits
          rw [Integer.fits_iff]
          omega
        refine ⟨Int64.ofInt number, readInteger_eq_ok_iff.mpr (.inr ⟨text, value, ?_, ?_, ?_⟩)⟩
        · rwa [same]
        · rw [Int64.le_iff_toInt_le, same]
          exact least
        · rw [Int64.le_iff_toInt_le, same]
          exact most

theorem toLower_eq_word_iff {text : String} {backend : Backend} :
    String.ofList (text.toList.map Char.toLower) = backend.word ↔ SpellsBackend text backend := by
  have lower : backend.word.toList.all Char.isLower = true := by
    cases backend <;> decide
  rw [SpellsBackend, ← Text.map_toLower_eq_iff (List.all_eq_true.mp lower), ← String.toList_inj,
    String.toList_ofList]

/-- A store is chosen exactly if it is left out, or named in letters of either case. -/
theorem readBackend_eq_ok_iff {lookup : Lookup} {backend : Backend} :
    readBackend lookup = .ok backend ↔
      (lookup "STORE_BACKEND" = none ∧ backend = .redis) ∨
        ∃ text, lookup "STORE_BACKEND" = some text ∧ SpellsBackend text backend := by
  rw [readBackend]
  cases value : lookup "STORE_BACKEND" with
  | none => simp [eq_comm]
  | some text =>
      simp only [reduceCtorEq, false_and, Option.some.injEq, exists_eq_left', false_or,
        ← toLower_eq_word_iff]
      cases backend <;> grind [Backend.word]

theorem faulty_of_readBackend {lookup : Lookup} {error : Error}
    (refused : readBackend lookup = .error error) :
    Setting.Faulty .backend (lookup "STORE_BACKEND") error := by
  have none (backend : Backend) : readBackend lookup ≠ .ok backend := by
    rw [refused]
    exact fun same => nomatch same
  cases value : lookup "STORE_BACKEND" with
  | none => exact absurd (readBackend_eq_ok_iff.mpr (.inl ⟨value, rfl⟩)) (none .redis)
  | some text =>
      have unknown (backend : Backend) : ¬ SpellsBackend text backend := fun spells =>
        none backend (readBackend_eq_ok_iff.mpr (.inr ⟨text, value, spells⟩))
      simp only [readBackend, value] at refused
      split at refused
      · cases refused
      · split at refused
        · cases refused
        · cases refused
          exact .unknownBackend unknown

/-- An address is read exactly if it is left out, or set to a text that spells it. -/
theorem readAddress_eq_ok_iff {lookup : Lookup} {address : Net.SocketAddress} :
    readAddress lookup = .ok address ↔
      (lookup "BIND_ADDR" = none ∧ address = .four [127, 0, 0, 1] 3000) ∨
        ∃ text, lookup "BIND_ADDR" = some text ∧ Net.SocketAddress.parse? text = some address := by
  have default : Net.SocketAddress.parse? "127.0.0.1:3000" = some (.four [127, 0, 0, 1] 3000) := by
    decide
  rw [readAddress]
  cases value : lookup "BIND_ADDR" with
  | none => simp [default, eq_comm]
  | some text => cases read : Net.SocketAddress.parse? text <;> simp [read]

theorem faulty_of_readAddress {lookup : Lookup} {error : Error}
    (refused : readAddress lookup = .error error) :
    Setting.Faulty .bindAddress (lookup "BIND_ADDR") error := by
  have none (address : Net.SocketAddress) : readAddress lookup ≠ .ok address := by
    rw [refused]
    exact fun same => nomatch same
  cases value : lookup "BIND_ADDR" with
  | none => exact absurd (readAddress_eq_ok_iff.mpr (.inl ⟨value, rfl⟩)) (none _)
  | some text =>
      cases read : Net.SocketAddress.parse? text with
      | some address =>
          exact absurd (readAddress_eq_ok_iff.mpr (.inr ⟨text, value, read⟩)) (none address)
      | none =>
          simp only [readAddress, value, Option.getD_some, read] at refused
          cases refused
          exact .badAddress read

/-! ### The first fault -/

/-- The error of a reading, if it has one. -/
def errorOf? : Except Error α → Option Error
  | .ok _ => none
  | .error error => some error

theorem errorOf?_eq_some_iff {reading : Except Error α} {error : Error} :
    errorOf? reading = some error ↔ reading = .error error := by
  cases reading <;> simp [errorOf?]

theorem errorOf?_eq_none_iff {reading : Except Error α} :
    errorOf? reading = none ↔ ∃ value, reading = .ok value := by
  cases reading <;> simp [errorOf?]

namespace Setting

/-- What the reader of a setting objects to, if anything. -/
def fault? (lookup : Lookup) : Setting → Option Error
  | .secret => errorOf? (readSecret lookup)
  | .tokenWindow => errorOf? (readInteger lookup "CSRF_EXPIRE_SECONDS" 3600 expireLimit)
  | .sessionDays => errorOf? (readInteger lookup "SESSION_DURATION_DAYS" 7 durationLimit)
  | .backend => errorOf? (readBackend lookup)
  | .bindAddress => errorOf? (readAddress lookup)

/-- A setting is judged by the value of its own variable. -/
theorem fault?_congr
    {lookup other : Lookup}
    {setting : Setting}
    (same : other setting.name = lookup setting.name) :
    setting.fault? other = setting.fault? lookup := by
  cases setting <;> rw [name] at same <;>
    simp only [fault?, readSecret, readInteger, readBackend, readAddress, same]

/-- A setting has no fault exactly if its variable fits it. -/
theorem fault?_eq_none_iff {lookup : Lookup} {setting : Setting} :
    setting.fault? lookup = none ↔ setting.Fits (lookup setting.name) := by
  cases setting with
  | secret =>
      rw [fault?, errorOf?_eq_none_iff, Fits, exists_comm]
      exact exists_congr fun secret => readSecret_eq_ok_iff
  | tokenWindow =>
      rw [fault?, errorOf?_eq_none_iff, exists_readInteger_iff]
      exact Iff.rfl
  | sessionDays =>
      rw [fault?, errorOf?_eq_none_iff, exists_readInteger_iff]
      exact Iff.rfl
  | backend =>
      rw [fault?, errorOf?_eq_none_iff, Fits, name]
      simp only [readBackend_eq_ok_iff]
      cases lookup "STORE_BACKEND" <;> simp
  | bindAddress =>
      rw [fault?, errorOf?_eq_none_iff, Fits, name]
      simp only [readAddress_eq_ok_iff]
      cases lookup "BIND_ADDR" <;> simp

theorem faulty_of_fault? {lookup : Lookup} {setting : Setting} {error : Error}
    (found : setting.fault? lookup = some error) :
    setting.Faulty (lookup setting.name) error := by
  cases setting <;> rw [fault?, errorOf?_eq_some_iff] at found
  case secret => exact faulty_of_readSecret found
  case tokenWindow =>
      have limited : Setting.tokenWindow.limit? = some expireLimit := rfl
      exact faulty_of_readInteger limited found
  case sessionDays =>
      have limited : Setting.sessionDays.limit? = some durationLimit := rfl
      exact faulty_of_readInteger limited found
  case backend => exact faulty_of_readBackend found
  case bindAddress => exact faulty_of_readAddress found

end Setting

/-- The readings are made one after the other, and the first fault ends them. -/
theorem errorOf?_ofLookup (lookup : Lookup) :
    errorOf? (ofLookup lookup) = Setting.all.findSome? (Setting.fault? lookup) := by
  simp only [ofLookup, Setting.all, List.findSome?_cons, List.findSome?_nil, Setting.fault?]
  cases readSecret lookup <;> cases readInteger lookup "CSRF_EXPIRE_SECONDS" 3600 expireLimit <;>
    cases readInteger lookup "SESSION_DURATION_DAYS" 7 durationLimit <;>
    cases readBackend lookup <;> cases readAddress lookup <;> rfl

theorem holdsInteger_of_readInteger
    {lookup : Lookup}
    {name : String}
    {default limit held : Int64}
    (read : readInteger lookup name default limit = .ok held) :
    HoldsInteger (lookup name) default held := by
  rcases readInteger_eq_ok_iff.mp read with ⟨unset, same⟩ | ⟨text, set, denotes, _⟩
  · rw [unset]
    exact same
  · rw [set]
    intro number
    constructor
    · intro other
      exact other.unique denotes
    · rintro rfl
      exact denotes

/-- A configuration that is accepted holds what the variables say. -/
theorem holds_of_ofLookup {lookup : Lookup} {config : Config}
    (accepted : ofLookup lookup = .ok config) : Holds lookup config := by
  have reads := reads_of_ofLookup accepted
  obtain ⟨text, set, spells, _⟩ := readSecret_eq_ok_iff.mp reads.secret
  refine ⟨⟨text, set, ?_⟩, holdsInteger_of_readInteger reads.tokenWindow,
    holdsInteger_of_readInteger reads.sessionDays, readBackend_eq_ok_iff.mp reads.backend,
    readAddress_eq_ok_iff.mp reads.bindAddress⟩
  intro secret
  rw [← decode_trim_eq_ok_iff, decode_trim_eq_ok_iff.mpr spells, Except.ok.injEq, eq_comm]

/-- There is a configuration exactly when every setting fits, and it holds exactly what the variables say.
Otherwise the error is that of the first setting that does not fit, whatever the variables of the later
ones hold. -/
theorem ofLookup_exact (lookup : Lookup) :
    ((∃ config, ofLookup lookup = .ok config) ↔
      ∀ setting : Setting, setting.Fits (lookup setting.name)) ∧
    (∀ config, ofLookup lookup = .ok config → Holds lookup config) ∧
    ∀ error, ofLookup lookup = .error error →
      ∃ before setting after,
        Setting.all = before ++ setting :: after ∧
        (∀ earlier ∈ before, earlier.Fits (lookup earlier.name)) ∧
        ¬ setting.Fits (lookup setting.name) ∧
        setting.Faulty (lookup setting.name) error ∧
        ∀ other : Lookup,
          (∀ earlier ∈ before, earlier.Fits (other earlier.name)) →
          other setting.name = lookup setting.name →
          ofLookup other = .error error := by
  refine ⟨?_, fun config => holds_of_ofLookup, ?_⟩
  · rw [← errorOf?_eq_none_iff, errorOf?_ofLookup, List.findSome?_eq_none_iff]
    constructor
    · intro sound setting
      exact Setting.fault?_eq_none_iff.mp (sound setting setting.mem_all)
    · intro fits setting _
      exact Setting.fault?_eq_none_iff.mpr (fits setting)
  · intro error refused
    rw [← errorOf?_eq_some_iff, errorOf?_ofLookup, List.findSome?_eq_some_iff] at refused
    obtain ⟨before, setting, after, order, found, sound⟩ := refused
    refine ⟨before, setting, after, order, ?_, ?_, Setting.faulty_of_fault? found, ?_⟩
    · intro earlier inside
      exact Setting.fault?_eq_none_iff.mp (sound earlier inside)
    · rw [← Setting.fault?_eq_none_iff, found]
      exact Option.some_ne_none error
    · intro other fits same
      rw [← errorOf?_eq_some_iff, errorOf?_ofLookup, List.findSome?_eq_some_iff]
      refine ⟨before, setting, after, order, (Setting.fault?_congr same).trans found, ?_⟩
      intro earlier inside
      exact Setting.fault?_eq_none_iff.mpr (fits earlier inside)

/-- White space around the secret, digits in both cases, and a sign and zeros before the days. -/
example :
    let lookup (name : String) : Option String :=
      if name = "CSRF_SECRET" then some " 00112233445566778899aAbBcCdDeEfF\n"
      else if name = "SESSION_DURATION_DAYS" then some "+0000030"
      else none
    (ofLookup lookup).map (fun config => (config.secret.length, config.sessionDays)) =
      .ok (16, 30) := by
  decide +kernel

end Config
end AntiForgery
