import ApiCall.Security.Document
import ApiCall.Settings

/-!
Settings as JSON documents. Durations are given in seconds; one that is zero, negative or out of
range is as good as absent.
-/

namespace ApiCall

open Json Json.Decoder

/-- A duration in seconds, if it sets one. -/
def Duration.optionDecoder : Decoder (Option Duration) :=
  (option float).map fun x => x.bind Duration.positive?

/-- A duration in seconds, zero if none is set. -/
def Duration.decoder : Decoder Duration :=
  Duration.optionDecoder.map (·.getD .zero)

def RetryPolicy.decoder : Decoder RetryPolicy :=
  record "struct RetryPolicy" {}
    [optional "times" (unsigned 32) fun times p => { p with times := UInt32.ofNat times },
     optional "delay" Duration.decoder fun delay p => { p with delay },
     optional "httpStatus" (list (unsigned 16)) fun statuses p => { p with statuses }]

def GlobalDefaults.decoder : Decoder GlobalDefaults :=
  record "struct GlobalDefaults" {}
    [optional "timeout" Duration.decoder fun timeout g => { g with timeout },
     optional "retry" RetryPolicy.decoder fun retry g => { g with retry }]

def Settings.decoder : Decoder Settings :=
  record "struct Settings" {}
    [optional "baseUrl" string fun baseUrl s => { s with baseUrl },
     optional "headers" (dict string) fun headers s => { s with headers },
     optional "securitySchemes" (dict SecurityScheme.decoder) fun securitySchemes s =>
       { s with securitySchemes },
     optional "credentials" (dict Credential.decoder) fun credentials s => { s with credentials },
     optional "security" (list Requirement.decoder) fun security s => { s with security },
     optional "timeout" Duration.optionDecoder fun timeout s => { s with timeout },
     optional "retry" (option RetryPolicy.decoder) fun retry s => { s with retry },
     optional "global" GlobalDefaults.decoder fun global s => { s with global }]

end ApiCall
