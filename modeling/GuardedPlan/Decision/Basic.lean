import GuardedPlan.Decode

/-!
# Decision records

A decision record is a scored answer to a design question. It is provisional until it is final, and it may stand under another decision.
-/

namespace GuardedPlan

inductive DecisionStatus where
  | provisional
  | final
deriving DecidableEq, Repr

namespace DecisionStatus

def named : List (String × DecisionStatus) :=
  [("provisional", provisional), ("final", final)]

def name : DecisionStatus → String
  | provisional => "provisional"
  | final => "final"

end DecisionStatus

/-- A decision with its question, its answer and its place under another decision. -/
structure Decision where
  id : String
  question : String
  answer : String
  rationale : String
  status : DecisionStatus
  confidence : Binary64
  evidence : List String
  parent : Option String
deriving DecidableEq, Repr

namespace Decision

def isFinal (d : Decision) : Bool :=
  d.status = .final

def fields : Fields Decision :=
  Decision.mk
    <$> .required "id" Decode.text
    <*> .required "question" Decode.text
    <*> .required "answer" Decode.text
    <*> .required "rationale" Decode.text
    <*> .required "status" (Decode.constant DecisionStatus.named)
    <*> .required "confidence" Decode.float
    <*> .defaulted "evidence" [] (Decode.list Decode.text)
    <*> .defaulted "parent" none (Decode.nullable Decode.text)

def decode : Json → Decoded Decision :=
  fields.record "struct DecisionRecord" false

/-- The record as a value; empty evidence and an absent parent are left out. -/
def encode (d : Decision) : Json :=
  .object <|
    [("id", .string d.id), ("question", .string d.question), ("answer", .string d.answer),
      ("rationale", .string d.rationale), ("status", .string d.status.name),
      ("confidence", .number (.float d.confidence))] ++
      (if d.evidence.isEmpty then [] else [("evidence", Json.strings d.evidence)]) ++
      (d.parent.map fun parent => ("parent", Json.string parent)).toList

end Decision

end GuardedPlan
