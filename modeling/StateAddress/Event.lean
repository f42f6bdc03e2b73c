import StateAddress.Entity

/-!
# Events

What the library reports about its work.  An event has a severity, and it is recorded if the
level in force is not above that severity.

## Main definitions

* `Event` : an address is about to be derived, or has been derived.
* `Level` : the level from which on events are recorded.
-/

namespace StateAddress

/-- A level of severity.  Zero stands for a level that has not been set. -/
abbrev Level := Nat

namespace Level

/-- The level of details. -/
def debug : Level := 10

/-- The level of information. -/
def info : Level := 20

/-- The level of warnings, which is in force where none has been set. -/
def warning : Level := 30

/-- The level in force. -/
def inForce (level : Level) : Level := if level = 0 then warning else level

end Level

/-- A report of the library about its work. -/
inductive Event where
  /-- An address is about to be derived, for an entity and with a hash provider. -/
  | started (entity provider : Value)
  /-- The address of an entity has been derived. -/
  | derived (entity : Entity) (address : Bytes)
  deriving Repr

namespace Event

/-- The severity of an event. -/
def severity : Event → Level
  | started .. => Level.info
  | derived .. => Level.debug

/-- The name of the severity of an event. -/
def severityName : Event → String
  | started .. => "INFO"
  | derived .. => "DEBUG"

/-- The part of the library that reports an event. -/
def source : Event → String
  | started .. => "cli"
  | derived .. => "addresser"

/-- The text of an event. -/
def message : Event → Text
  | started entity provider =>
      "deriving " ++ entity.displayed ++ " address with " ++ provider.displayed
  | derived entity address => "derived " ++ entity.label ++ " address " ++ Hex.encode address

/-- Whether an event is recorded at a level. -/
def isRecorded (e : Event) (level : Level) : Bool := level.inForce ≤ e.severity

end Event

end StateAddress
