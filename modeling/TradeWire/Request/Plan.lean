import TradeWire.Catalog.Feature
import TradeWire.Catalog.Message
import TradeWire.Catalog.Notice
import TradeWire.Record.TagValue

/-!
# Plans of requests

A plan says what a request does at every server version: the checks that may stop it, in order, and
the steps that write its fields, in order. Each check and each step holds for a span of versions, so
the fields at a version are those of the steps whose span contains it.
-/

namespace TradeWire

/-! ## Spans of versions -/

/-- The server versions for which something holds. -/
inductive Span where
  | always
  | never
  | since (version : Int)
  | before (version : Int)
  | between (first next : Int)
  deriving DecidableEq

namespace Span

/-- Whether a version belongs to a span; the upper end of a span does not. -/
def contains (version : Int) : Span → Bool
  | .always => true
  | .never => false
  | .since first => first ≤ version
  | .before next => version < next
  | .between first next => first ≤ version && version < next

/-- The span of all versions or of none. -/
def ofBool (holds : Bool) : Span := if holds then .always else .never

end Span

/-! ## Problems -/

/-- A request that is not sent, and what is reported instead. -/
structure Refusal where
  id : Int
  notice : Notice
  detail : String
  deriving DecidableEq

def Refusal.message (refusal : Refusal) : String := refusal.notice.text refusal.detail

/-- What goes wrong without a report: it is handed to the caller. -/
inductive Failure where
  | encode (error : EncodeError)
  | conversion (error : Double.ConversionError)
  | incomparable (kind : String)
  | refused (refusal : Refusal)
  | badCode (message : String)
  | missingPart
  | unframable
  | noSocket
  | socket (text : String)
  | callback (name : String)
  deriving DecidableEq

def Failure.message : Failure → String
  | .encode error => error.message
  | .conversion error => error.message
  | .incomparable kind => "'>' not supported between instances of '" ++ kind ++ "' and 'int'"
  | .refused refusal => refusal.message
  | .badCode message => message
  | .missingPart => "tuple index out of range"
  | .unframable => "'I' format requires 0 <= number <= 4294967295"
  | .noSocket => "'NoneType' object has no attribute 'sendall'"
  | .socket text => text
  | .callback name => "boom in " ++ name

/-- Why a request is not sent. -/
inductive Problem where
  | refused (refusal : Refusal)
  | failed (failure : Failure)
  deriving DecidableEq

/-! ## Checks and steps -/

/-- A problem that a request has at some versions, if it has it at all. -/
structure Check where
  span : Span
  problem? : Option Problem

namespace Check

/-- The server is older than what a request makes use of. -/
def needs (version : Int) (id : Int) (detail : String) (used : Bool := true) : Check where
  span := .before version
  problem? := if used then some (.refused ⟨id, .serverTooOld, detail⟩) else none

/-- Options for internal use are given to a server that would read them. -/
def internal (id : Int) (options : Option (List TagValue)) (name : String) : Check where
  span := .since Feature.linking
  problem? :=
    if (options.getD []).isEmpty then none
    else some (.refused ⟨id, .unsupported, " " ++ name ++ "."⟩)

/-- The first problem at a version. -/
def first? (version : Int) (checks : List Check) : Option Problem :=
  (checks.filter (·.span.contains version)).findSome? (·.problem?)

end Check

/-- Fields that are written at some versions. -/
structure Step where
  span : Span
  fields : List Field

namespace Step

def always (fields : List Field) : Step := ⟨.always, fields⟩

def since (version : Int) (fields : List Field) : Step := ⟨.since version, fields⟩

def before (version : Int) (fields : List Field) : Step := ⟨.before version, fields⟩

def between (first next : Int) (fields : List Field) : Step := ⟨.between first next, fields⟩

/-- The fields of the steps that are written at a version. -/
def fieldsAt (version : Int) (steps : List Step) : List Field :=
  (steps.filter (·.span.contains version)).flatMap (·.fields)

end Step

/-! ## Plans -/

/-- What a request does at every version. -/
structure Plan where
  /-- The kind of message that is sent. -/
  kind : Outgoing
  /-- The id under which problems of the connection are reported. -/
  subject : Int := noId
  checks : List Check := []
  steps : List Step

namespace Plan

/-- The problem that stops the request at a version. -/
def problem? (plan : Plan) (version : Int) : Option Problem := Check.first? version plan.checks

/-- The fields that are sent at a version. -/
def fieldsAt (plan : Plan) (version : Int) : List Field :=
  .int plan.kind.number :: Step.fieldsAt version plan.steps

/-- The message that is sent at a version, or why there is none. -/
def payloadAt (plan : Plan) (version : Int) : Except Problem Bytes :=
  match plan.problem? version with
  | some problem => .error problem
  | none => (Field.encodeAll (plan.fieldsAt version)).mapError fun e => .failed (.encode e)

end Plan

/-- A list of pairs as one field. -/
def joinedField (pairs : Option (List TagValue)) : Field := .text (TagValue.joined pairs)

/-- The number of items of a list as a field. -/
def countField {α : Type} (items : List α) : Field := .int items.length

end TradeWire
