import ApiCall.Directive.Document
import ApiCall.Operation
import ApiCall.Settings.Document

/-!
Operations as JSON documents. The members of a parameter's directive stand beside its own.
-/

namespace ApiCall

open Json Json.Decoder

def Method.decoder : Decoder Method :=
  string.check fun text =>
    match Method.ofName? text with
    | some m => .ok m
    | none => .error (.refused (Method.unsupported text))

def Parameter.decoder : Decoder Parameter :=
  flattened "struct Parameter" ⟨"", default, { name := "" }⟩
    [required "argumentName" string fun argumentName p => { p with argumentName },
     required "schema" Schema.decoder fun schema p => { p with schema }]
    fun others p => do
      let directive ← Directive.decoder.plain (.object others)
      return { p with directive }

def BodySpec.decoder : Decoder BodySpec :=
  record "struct RequestBodySpec" { schema := default }
    [optional "argumentName" string fun argumentName b => { b with argumentName },
     optional "contentType" string fun contentType b => { b with contentType },
     required "schema" Schema.decoder fun schema b => { b with schema },
     optional "encoding" (dict Directive.decoder) fun encoding b => { b with encoding }]

def Operation.decoder : Decoder Operation :=
  record "struct Operation" { name := "", method := .get, path := "" }
    [required "name" string fun name o => { o with name },
     required "method" Method.decoder fun method o => { o with method },
     required "path" string fun path o => { o with path },
     optional "parameters" (list Parameter.decoder) fun parameters o => { o with parameters },
     optional "requestBody" (option BodySpec.decoder) fun body o => { o with body },
     optional "security" (option (list Requirement.decoder)) fun security o =>
       { o with security },
     optional "timeout" Duration.optionDecoder fun timeout o => { o with timeout },
     optional "retry" (option RetryPolicy.decoder) fun retry o => { o with retry }]

end ApiCall
