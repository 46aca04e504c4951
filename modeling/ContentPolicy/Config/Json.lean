import ContentPolicy.Config
import ContentPolicy.Error
import ContentPolicy.Policy.Json

/-!
# Configurations in JSON

A configuration is written as an object with the fields `enforced` and `report_only`, or as an array
of their values in that order. A field is null or missing, a header value, or a policy. Names are
judged before their values are read, and each value is read to its end before it is judged.
-/

namespace ContentPolicy

open Json

namespace PolicySource

/-- The source that a document holds: none for null, a header value for a string, and a fixed policy
for an object. The outer option tells whether it has one of these shapes. -/
def ofDocument? : Document → Option (Option PolicySource)
  | .scalar .null => some none
  | .scalar (.string header) => some (some (.verbatim header))
  | .object members => (Policy.ofMembers? members).map fun policy => some (.fixed policy)
  | _ => none

def read : Reader Mismatch (Option PolicySource) := fun text =>
  match readDocument (nestingLimit - 1) text with
  | .error failure => .error failure
  | .ok (document, rest) =>
    match ofDocument? document with
    | some source => .ok (source, rest)
    | none => .error (.mismatch .configuredPolicy)

end PolicySource

namespace Config

/-- The fields of a configuration that have been read. -/
structure Fields where
  enforced : Option (Option PolicySource)
  reportOnly : Option (Option PolicySource)

def Fields.has (fields : Fields) : Disposition → Bool
  | .enforced => fields.enforced.isSome
  | .reportOnly => fields.reportOnly.isSome

def Fields.set (fields : Fields) (field : Disposition) (source : Option PolicySource) : Fields :=
  match field with
  | .enforced => { fields with enforced := some source }
  | .reportOnly => { fields with reportOnly := some source }

/-- The configuration of the fields; a missing field is unset. -/
def Fields.config (fields : Fields) : Config := ⟨fields.enforced.join, fields.reportOnly.join⟩

def readField (fields : Fields) (name : String) : Reader Mismatch Fields := fun text =>
  match Disposition.ofField? name with
  | none => .error (.mismatch (.unknownField name))
  | some field =>
    if fields.has field then .error (.mismatch (.repeatedField field))
    else
      match readColon text with
      | .error failure => .error failure
      | .ok text => (PolicySource.read text).map fun (source, rest) => (fields.set field source, rest)

/-- Closes an array in which nothing more may stand. -/
def closeArray (config : Config) : Reader Mismatch Config := fun text =>
  match skipBlanks text with
  | [] => .error .truncated
  | mark :: rest => if mark = ']' then .ok (config, rest) else .error .malformed

/-- Reads the values of an array from behind its opening bracket: at most one for each field. -/
def readRow : Reader Mismatch Config := fun text =>
  match nextItem true text with
  | .error failure => .error failure
  | .ok (.closed rest) => .ok (.empty, rest)
  | .ok (.part text) =>
    match PolicySource.read text with
    | .error failure => .error failure
    | .ok (enforced, rest) =>
      match nextItem false rest with
      | .error failure => .error failure
      | .ok (.closed rest) => .ok (⟨enforced, none⟩, rest)
      | .ok (.part text) =>
        match PolicySource.read text with
        | .error failure => .error failure
        | .ok (reportOnly, rest) => closeArray ⟨enforced, reportOnly⟩ rest

def read : Reader Mismatch Config := fun text =>
  match skipBlanks text with
  | [] => .error .truncated
  | mark :: rest =>
    if mark = '\x7b' then
      (readMembers readField ⟨none, none⟩ rest).map fun (fields, rest) => (fields.config, rest)
    else if mark = '[' then readRow rest
    else .error (refusal .config mark rest)

/-- The configuration that a text writes. -/
def ofJson (text : String) : Except (Failure Mismatch) Config := readWhole read text

/-- The configuration that a text writes, with the failure as an error of the set-up. -/
def load (text : String) : Except Error Config :=
  match ofJson text with
  | .ok config => .ok config
  | .error failure => .error (.config failure)

end Config

end ContentPolicy
