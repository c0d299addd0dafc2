/-! # Privacy modes

How much the recipients of a message learn about one another and about the messages it builds on.
-/

namespace SealedExchange

/-- The rule that a message and the messages it affects follow. -/
inductive PrivacyMode
  /-- Each recipient sees only itself. -/
  | standardPrivate
  /-- Affected messages must have the sender among their recipients. -/
  | partyProtection
  /-- Some recipients may not be left out of later messages. -/
  | mandatoryRecipients
  /-- All parties of affected messages must agree on the recipients. -/
  | privateStateValidation
deriving DecidableEq, Repr, Inhabited

namespace PrivacyMode

/-- All modes, in the order of their codes. -/
def all : List PrivacyMode :=
  [standardPrivate, partyProtection, mandatoryRecipients, privateStateValidation]

/-- The number of a mode in requests. -/
def code : PrivacyMode → Nat
  | standardPrivate => 0
  | partyProtection => 1
  | mandatoryRecipients => 2
  | privateStateValidation => 3

/-- The mode with a given number. -/
def ofCode? : Nat → Option PrivacyMode
  | 0 => some standardPrivate
  | 1 => some partyProtection
  | 2 => some mandatoryRecipients
  | 3 => some privateStateValidation
  | _ => none

@[simp] theorem ofCode?_code (mode : PrivacyMode) : ofCode? mode.code = some mode := by
  cases mode <;> rfl

/-- The name of a mode in messages to people. -/
def label : PrivacyMode → String
  | standardPrivate => "STANDARD_PRIVATE"
  | partyProtection => "PARTY_PROTECTION"
  | mandatoryRecipients => "MANDATORY_RECIPIENTS"
  | privateStateValidation => "PRIVATE_STATE_VALIDATION"

/-- The name of a mode in documents. -/
def name : PrivacyMode → String
  | standardPrivate => "StandardPrivate"
  | partyProtection => "PartyProtection"
  | mandatoryRecipients => "MandatoryRecipients"
  | privateStateValidation => "PrivateStateValidation"

/-- The mode with a given name in documents. -/
def ofName? (name : String) : Option PrivacyMode :=
  all.find? fun mode => mode.name = name

end PrivacyMode

end SealedExchange
