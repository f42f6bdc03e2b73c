import StateAddress.AddressError

/-!
# Faults

Every way in which an operation fails, by its cause.  The two families that callers tell apart
are refused inputs and failed hash providers; the others are mistakes of the caller or of the
scheme: values used as what they are not, digests too short for their place, addresses of the
wrong length.  The wording is a function of the cause.  That a value in it may have too many digits
to be written is looked at where a fault of a hash provider is reported, and not in the messages of
refusals and of sizes that do not fit.

## Main definitions

* `Rejection` : why an input was refused, and `Rejection.origin?` : the failure behind it.
* `Misuse` : why a value could not be used in a place.
* `Defect` : why sizes or names do not fit together.
* `Raised` : a failure raised by an injected hash function.
* `Fault` : all of these, together with failed hash providers.
* `Fault.text` : what is reported, unless it cannot be written.
* `Fault.whileHashing` : how a fault of a hash provider is reported.
* `Fault.className`, `Fault.causeClass?` : the classes of a fault and of the one behind it.
* `Fault.addressError?`, `Fault.isInterrupt` : which faults are address errors, and which end the
  program.
-/

namespace StateAddress

/-! ### Refused inputs -/

/-- Why an identifier, a hexadecimal text or an address was refused. -/
inductive Rejection where
  /-- An identifier that is neither a text nor a byte string. -/
  | notIdentifier (field : String) (given : Value)
  /-- An identifier with lone surrogates. -/
  | notUtf8 (field : String) (given : Text)
  /-- A namespace with fewer bytes than identify its registry. -/
  | namespaceTooShort (given needed : Value)
  /-- A namespace whose leading bytes end inside a character. -/
  | namespaceCut (given needed : Value)
  /-- A settings key that is not a text, or empty. -/
  | notSettingKey (given : Value)
  /-- A hexadecimal form that is not a text. -/
  | notHexText (given : Value)
  /-- A hexadecimal form with half a byte. -/
  | oddHexDigits (given : Text)
  /-- A hexadecimal form with another character than the digits. -/
  | notHexDigits (given : Text)
  /-- An address that is not a byte string. -/
  | notAddress (given : Value)
  /-- An address of the wrong length. -/
  | addressLength (actual : Nat) (expected : Value)
  deriving Repr

/-- The message of a refusal. -/
def Rejection.message : Rejection → Text
  | notIdentifier field given => field ++ " must be str or bytes, got " ++ given.typeName
  | notUtf8 field given => field ++ " is not valid UTF-8: " ++ Quoted.text given
  | namespaceTooShort given needed =>
      "namespace '" ++ given.displayed ++ "' is less than " ++ needed.displayed ++
        " characters long"
  | namespaceCut given needed =>
      "namespace '" ++ given.displayed ++ "' does not end a character at byte " ++
        needed.displayed
  | notSettingKey given => "setting key must be a non-empty string: " ++ given.quoted
  | notHexText given => "expected a hex string, got " ++ given.typeName
  | oddHexDigits given => "hex string has odd number of digits: " ++ given
  | notHexDigits given => "string contains invalid hex: " ++ given
  | notAddress given => "address must be bytes, got " ++ given.typeName
  | addressLength actual expected =>
      "address is " ++ Text.ofNat actual ++ " bytes long, expected " ++ expected.displayed

/-- How a conversion between texts and their UTF-8 forms fails. -/
inductive Utf8.Failure where
  /-- A text has lone surrogates. -/
  | unencodable
  /-- A byte string is not the form of characters. -/
  | undecodable
  deriving DecidableEq, Repr

/-- The class of a failed conversion. -/
def Utf8.Failure.className : Utf8.Failure → String
  | unencodable => "UnicodeEncodeError"
  | undecodable => "UnicodeDecodeError"

/-- The failed conversion that a refusal goes back to, if it goes back to one. -/
def Rejection.origin? : Rejection → Option Utf8.Failure
  | notUtf8 .. => some .unencodable
  | namespaceCut .. => some .undecodable
  | _ => none

/-! ### Misused values -/

/-- Why a value could not be used in a place. -/
inductive Misuse where
  /-- Two values without an order between them. -/
  | unordered (symbol left right : String)
  /-- A value without a length. -/
  | unsized (given : String)
  /-- A bound of a slice that is no integer. -/
  | notSliceBound
  /-- A value that cannot be a key of a table. -/
  | unhashable (given : String)
  /-- An item of a joined sequence that is no byte string. -/
  | notOctets (position : Nat) (given : String)
  /-- A value from which nothing can be subtracted. -/
  | notSubtractable (left right : String)
  /-- A value taken for an integer. -/
  | notInteger (given : String)
  /-- A value that no byte string can be made of. -/
  | notConvertible (given : String)
  /-- A text without a choice of its encoding. -/
  | unencodedText
  /-- A value handed to a hash function in place of a byte string. -/
  | notHashable (given : String)
  /-- A value without a member of a name. -/
  | missingMember (given member : String)
  /-- A byte string of negative length. -/
  | negativeCount
  /-- An integer that is no byte. -/
  | notByte
  /-- A length that is too large for a size. -/
  | oversizedCount
  /-- A number of cuts that is too large for a size. -/
  | oversizedLimit
  /-- A byte string whose length is hardly a size. -/
  | oversizedBytes
  /-- A sequence too long for the memory. -/
  | unallocatable
  /-- A single item without dimensions, of which no part is taken. -/
  | dimensionless
  deriving DecidableEq, Repr

/-- The message of a misuse. -/
def Misuse.message : Misuse → Text
  | unordered symbol left right =>
      "'" ++ symbol ++ "' not supported between instances of '" ++ left ++ "' and '" ++
        right ++ "'"
  | unsized given => "object of type '" ++ given ++ "' has no len()"
  | notSliceBound => "slice indices must be integers or None or have an __index__ method"
  | unhashable given => "unhashable type: '" ++ given ++ "'"
  | notOctets position given =>
      "sequence item " ++ Text.ofNat position ++ ": expected a bytes-like object, " ++ given ++
        " found"
  | notSubtractable left right =>
      "unsupported operand type(s) for -: '" ++ left ++ "' and '" ++ right ++ "'"
  | notInteger given => "'" ++ given ++ "' object cannot be interpreted as an integer"
  | notConvertible given => "cannot convert '" ++ given ++ "' object to bytes"
  | unencodedText => "string argument without an encoding"
  | notHashable given => "expected bytes, got " ++ given
  | missingMember given member =>
      "'" ++ given ++ "' object has no attribute '" ++ member ++ "'"
  | negativeCount => "negative count"
  | notByte => "bytes must be in range(0, 256)"
  | oversizedCount => "cannot fit 'int' into an index-sized integer"
  | oversizedLimit => "Python int too large to convert to C ssize_t"
  | oversizedBytes => "byte string is too large"
  | unallocatable => ""
  | dimensionless => "invalid indexing of 0-dim memory"

/-- The class of a misuse. -/
def Misuse.className : Misuse → String
  | missingMember .. => "AttributeError"
  | negativeCount | notByte => "ValueError"
  | oversizedCount | oversizedLimit | oversizedBytes => "OverflowError"
  | unallocatable => "MemoryError"
  | _ => "TypeError"

/-! ### Sizes and names that do not fit -/

/-- Why sizes or names do not fit together. -/
inductive Defect where
  /-- A digest shorter than the part that is taken of it. -/
  | digestTooShort (actual : Nat) (needed : Value)
  /-- A hash provider whose digests are declared too short for some address. -/
  | providerTooShort (name size needed : Value)
  /-- A composed address of the wrong length. -/
  | addressLength (entity : String) (actual : Nat) (expected : Value)
  /-- A name that no hash provider has. -/
  | unknownProvider (name : Value)
  deriving Repr

/-- The message of a defect. -/
def Defect.message : Defect → Text
  | digestTooShort actual needed =>
      "digest of " ++ Text.ofNat actual ++ " bytes cannot supply " ++ needed.displayed ++ " bytes"
  | providerTooShort name size needed =>
      "hash provider " ++ name.displayed ++ " has a " ++ size.displayed ++
        " byte digest, at least " ++ needed.displayed ++ " are needed"
  | addressLength entity actual expected =>
      entity ++ " address is " ++ Text.ofNat actual ++ " bytes, expected " ++ expected.displayed
  | unknownProvider name => "unknown hash provider: " ++ name.displayed

/-! ### Failures of injected functions -/

/-- The kinds of failures that an injected hash function raises. -/
inductive Raised.Kind where
  | runtime
  | value
  | key
  | type
  | system
  | general
  | notImplemented
  /-- The user interrupted the program. -/
  | interrupt
  /-- The program was asked to end. -/
  | exit
  deriving DecidableEq, Repr

/-- The class of the failures of a kind. -/
def Raised.Kind.className : Raised.Kind → String
  | runtime => "RuntimeError"
  | value => "ValueError"
  | key => "KeyError"
  | type => "TypeError"
  | system => "OSError"
  | general => "Exception"
  | notImplemented => "NotImplementedError"
  | interrupt => "KeyboardInterrupt"
  | exit => "SystemExit"

/-- A failure raised by an injected hash function, with its arguments. -/
structure Raised where
  kind : Raised.Kind
  arguments : List Value
  deriving Repr

/-- The failure to write an integer with too many digits. -/
def Raised.oversizedNumeral : Raised :=
  ⟨.value, [.ofString ("Exceeds the limit (4300 digits) for integer string conversion; " ++
    "use sys.set_int_max_str_digits() to increase the limit")]⟩

/-- The form of a value that shows a text as it is, if it can be written. -/
def Value.shown (v : Value) : Except Raised Text :=
  if v.isWritable then .ok v.displayed else .error .oversizedNumeral

/-- The quoted form of a value, if it can be written. -/
def Value.spelled (v : Value) : Except Raised Text :=
  if v.isWritable then .ok v.quoted else .error .oversizedNumeral

namespace Raised

/-- The files that a failure of the system names, from the arguments after its description: the
first and the third of these, the third only together with the first. -/
def files : List Value → List Value
  | [] | .null :: _ => []
  | [file, _, .null] => [file]
  | [file, _, other] => [file, other]
  | file :: _ => [file]

/-- The text of a failure of the system: its number, its description and the files concerned. -/
def systemText (number description : Value) (concerned : List Value) : Except Raised Text := do
  let code ← number.shown
  let what ← description.shown
  let described : Text := "[Errno " ++ code ++ "] " ++ what
  match ← concerned.mapM Value.spelled with
  | [] => return described
  | names => return described ++ ": " ++ List.intercalate " -> " names

/-- The text of a raised failure: its only argument, which a missing key quotes, or all of them.
Failures of the system have a form of their own. -/
def text (r : Raised) : Except Raised Text :=
  match r.kind, r.arguments with
  | _, [] => .ok ""
  | .key, [argument] => argument.spelled
  | _, [argument] => argument.shown
  | .system, number :: description :: rest =>
      if rest.length ≤ 3 then systemText number description (files rest)
      else (Value.tuple r.arguments).spelled
  | _, arguments => (Value.tuple arguments).spelled

end Raised

/-- The message of a run of surrogates that has no UTF-8 form. -/
def Utf8.SurrogateRun.message (run : Utf8.SurrogateRun) : Text :=
  if run.count = 1 then
    "'utf-8' codec can't encode character '" ++ Text.escapedUnit run.first.value ++
      "' in position " ++ Text.ofNat run.position ++ ": surrogates not allowed"
  else
    "'utf-8' codec can't encode characters in position " ++ Text.ofNat run.position ++ "-" ++
      Text.ofNat (run.position + run.count - 1) ++ ": surrogates not allowed"

/-! ### All faults -/

/-- A way in which an operation fails. -/
inductive Fault where
  /-- An input was refused. -/
  | rejected (reason : Rejection)
  /-- A hash provider failed, with a message about its fault. -/
  | hashFailed (message : Text) (cause : Fault)
  /-- A value was used as what it is not. -/
  | misused (reason : Misuse)
  /-- Sizes or names do not fit together. -/
  | unfit (reason : Defect)
  /-- A text without a UTF-8 form. -/
  | unencodable (run : Utf8.SurrogateRun)
  /-- A request for an entity that there is not. -/
  | unknownEntity (name : Value)
  /-- A failure raised by an injected hash function. -/
  | raised (failure : Raised)
  /-- An address error raised by an injected hash function. -/
  | address (e : AddressError)
  /-- A failure of a class that an injected hash function brings along, with its text or with what
  goes wrong when the text is asked for. -/
  | own (name : String) (text : Except Raised Text)
  deriving Repr

namespace Fault

/-- The kind of address error that a fault is, if it is one. -/
def addressError? : Fault → Option AddressError.Kind
  | rejected _ => some .refusedInput
  | hashFailed .. => some .failedHash
  | address e => some e.kind
  | _ => none

/-- Whether a fault ends the program instead of being reported by the deriver. -/
def isInterrupt : Fault → Bool
  | raised ⟨.interrupt, _⟩ => true
  | raised ⟨.exit, _⟩ => true
  | _ => false

/-- The text of a fault, or what goes wrong when it is written. -/
def text : Fault → Except Raised Text
  | rejected reason => .ok (AddressError.Kind.refusedInput.preamble ++ reason.message)
  | hashFailed message _ => .ok (AddressError.Kind.failedHash.preamble ++ message)
  | misused reason => .ok reason.message
  | unfit reason => .ok reason.message
  | unencodable run => .ok run.message
  | unknownEntity name => .ok ("unrecognized entity: " ++ name.displayed)
  | raised failure => failure.text
  | address e => e.message.shown.map (e.kind.preamble ++ ·)
  | own _ written => written

/-- The class of a fault. -/
def className : Fault → String
  | rejected _ => AddressError.Kind.refusedInput.name
  | hashFailed .. => AddressError.Kind.failedHash.name
  | misused reason => reason.className
  | unfit _ => "ValueError"
  | unencodable _ => Utf8.Failure.unencodable.className
  | unknownEntity _ => "AssertionError"
  | raised failure => failure.kind.className
  | address e => e.kind.name
  | own name _ => name

/-- The class of the fault that an address error goes back to, if it goes back to one. -/
def causeClass? : Fault → Option String
  | rejected reason => reason.origin?.map Utf8.Failure.className
  | hashFailed _ cause => some cause.className
  | _ => none

/-! ### Faults of hash providers -/

/-- The message about a fault of a hash provider: the purpose and the text of the fault, which are
written in this order. -/
def hashReport (purpose : Value) (fault : Fault) : Except Raised Text := do
  let shown ← purpose.shown
  let text ← fault.text
  return "failed to hash " ++ shown ++ ": " ++ text

/-- A fault of a hash provider as it is reported: with a message, unless it ends the program.  Where
the message cannot be written, the failure to do so takes the place of the report. -/
def whileHashing (purpose : Value) (fault : Fault) : Fault :=
  if fault.isInterrupt then fault
  else
    match fault.hashReport purpose with
    | .ok message => .hashFailed message fault
    | .error failure => .raised failure

end Fault

/-! ### Results that are changed -/

section Map

variable {ε α β : Type} {x : Except ε α}

theorem exists_of_map_eq_ok {f : α → β} {b : β} (h : x.map f = .ok b) :
    ∃ a, x = .ok a ∧ f a = b := by
  cases x with
  | error e => cases h
  | ok a => exact ⟨a, rfl, Except.ok.inj h⟩

theorem eq_error_of_map_eq_error {f : α → β} {e : ε} (h : x.map f = .error e) : x = .error e := by
  cases x with
  | error e' => exact congrArg _ (Except.error.inj h)
  | ok a => cases h

theorem exists_of_bind_eq_ok {f : α → Except ε β} {b : β} (h : x >>= f = .ok b) :
    ∃ a, x = .ok a ∧ f a = .ok b := by
  cases x with
  | error e => cases h
  | ok a => exact ⟨a, rfl, h⟩

end Map

/-! ### Results that are reported otherwise -/

section MapError

variable {α ε ε' : Type} (f : ε → ε')

theorem mapError_ok (a : α) : (Except.ok a).mapError f = .ok a := rfl

theorem mapError_error (e : ε) : (Except.error e : Except ε α).mapError f = .error (f e) := rfl

end MapError

end StateAddress
