import ServiceProbe.Dns.Message
import ServiceProbe.Text.Sorted

/-!
Answers: records as texts, and their comparison with an expectation. Answers
are sorted and joined with commas first, so their order does not matter, and no
answers at all match the empty expectation.
-/

namespace ServiceProbe.Dns

open Text

/-- A record's data as an answer, for the types that can be asked for. -/
def RecordData.answer? : RecordData → Option String
  | a ip => some ip.text
  | aaaa ip =>
    match ip.mapped? with
    | some v4 => some v4.text
    | none => some ip.text
  | mx preference exchange => some s!"{preference.toNat} {exchange.text}"
  | ns name => some name.text
  | txt chunks => some (String.ofList (decodeLossy (chunks.headD [])))
  | other => none

def extractAnswers (records : List Record) : List String :=
  records.filterMap fun record => record.data.bind RecordData.answer?

def joinSorted (answers : List String) : String :=
  String.intercalate "," (sorted answers)

def compareAnswers (expected : String) (answers : List String) : Except ProbeError Unit :=
  let found := joinSorted answers
  if found = expected then .ok ()
  else .error (.mismatch s!"expected DNS result to be '{expected}', but found '{found}'")

end ServiceProbe.Dns
