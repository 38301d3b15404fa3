import RouteWorks.Parameter.Span
import RouteWorks.Parameter.Value
import RouteWorks.Pattern.Reader

/-!
# Binding a parameter

The rules of a field decide which values a handler gets to see. They are applied in a fixed order,
and the first one that is broken is reported, in the words of the field if it has some.
-/

namespace RouteWorks

/-- What is wrong with a value that was sent. -/
inductive ValueRefusal where
  /-- A pattern that is not a regular expression. -/
  | badPattern
  | mismatch (text pattern : String)
  | unreadable (fault : ValueFault)
  | zero
  | lengthOutside (length : Nat) (span : String)
  | numberOutside (x : Number.Binary) (span : String)
  | fileTooLarge (name : String) (megabytes : Nat)
  /-- A body that cannot be read as what the handler expects. -/
  | body
  deriving DecidableEq, Repr, Inhabited

/-- The wording of the refusal. About an unreadable body nothing is said. -/
def ValueRefusal.reason? : ValueRefusal → Option String
  | badPattern => some "regex parse error"
  | mismatch text pattern => some (Text.quote text ++ " does not match " ++ pattern)
  | unreadable fault => some fault.message
  | zero => some "must not be zero"
  | lengthOutside length span => some ("length " ++ toString length ++ " is outside " ++ span)
  | numberOutside x span => some (x.text Number.double ++ " is outside " ++ span)
  | fileTooLarge name megabytes =>
    some (Text.quote name ++ " is larger than " ++ toString megabytes ++ " MB")
  | body => none

/-- Why a request cannot be bound or handled. -/
inductive BindFault where
  | missing (key : String)
  | invalid (key : String) (refusal : ValueRefusal)
  /-- The words that the field itself has for any failure. -/
  | custom (message : String)
  /-- A request that cannot be read to its end. -/
  | unreadable
  /-- An upload that could not be stored. -/
  | unsaved (key : String)
  deriving DecidableEq, Repr, Inhabited

namespace BindFault

/-- The wording of a fault. -/
def message : BindFault → String
  | missing key => "missing required parameter " ++ Text.quote key
  | invalid key refusal =>
    "invalid parameter " ++ Text.quote key ++ (refusal.reason?.map (": " ++ ·)).getD ""
  | custom message => message
  | unreadable => "unreadable request"
  | unsaved key => "failed to save upload " ++ Text.quote key

/-- The status a client is answered with. -/
def status : BindFault → Nat
  | unsaved _ => 500
  | _ => 400

end BindFault

/-- The rules of a field. -/
structure Rules where
  required : Bool := false
  nonzero : Bool := false
  len : Option String := none
  range : Option String := none
  pattern : Option String := none
  maxMegabytes : Option Nat := none
  /-- What to answer when a rule is broken. -/
  error : Option String := none
  deriving DecidableEq, Repr, Inhabited

namespace Rules

/-- The fault to report: the words of the field, if it has some. -/
def fail (rules : Rules) (fault : BindFault) : BindFault :=
  (rules.error.map .custom).getD fault

/-- Checks one text against a pattern. A pattern that is no regular expression is reported as such
whatever the words of the field are. -/
def checkPattern (rules : Rules) (key pattern text : String) : Except BindFault Unit :=
  match Pattern.ofText? pattern with
  | none => .error (.invalid key .badPattern)
  | some e =>
    if e.isMatch text.toList then .ok ()
    else .error (rules.fail (.invalid key (.mismatch text pattern)))

/-- Checks a measure of a value against the span of a rule. Nothing is checked where there is no rule
or the value does not have the measure. -/
def checkMeasure {α : Type} (rule : Option String) (measure : Option α) (number : α → Number.Binary)
    (refusal : α → String → ValueRefusal) : Except ValueRefusal Unit :=
  match rule, measure with
  | some span, some a => if within (number a) span then .ok () else .error (refusal a span)
  | _, _ => .ok ()

/-- Checks a value that was read: zero first, then its length, then its number. -/
def checkValue (rules : Rules) (v : ParameterValue) : Except ValueRefusal Unit := do
  if rules.nonzero && v.isZero then throw .zero
  checkMeasure rules.len v.length? (fun n => .ofInt Number.double n) .lengthOutside
  checkMeasure rules.range v.number? id .numberOutside

/-- Reads the texts that were sent, of which there is at least one, and checks the value. -/
def bindSent (rules : Rules) (type : ParameterType) (key : String) (sent : List String) :
    Except BindFault ParameterValue := do
  match rules.pattern with
  | some pattern => sent.forM (checkPattern rules key pattern)
  | none => pure ()
  let v ← (type.read key sent).mapError fun e => rules.fail (.invalid key (.unreadable e))
  (checkValue rules v).mapError fun e => rules.fail (.invalid key e)
  return v

/-- Binds a parameter to the texts sent under its key. Empty texts count as not sent. -/
def bind (rules : Rules) (type : ParameterType) (key : String) (sent : List String) :
    Except BindFault ParameterValue :=
  match sent.filter (· ≠ "") with
  | [] => if rules.required then .error (rules.fail (.missing key)) else .ok type.default
  | sent => bindSent rules type key sent

end Rules

end RouteWorks
