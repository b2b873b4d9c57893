import ApiCall.Directive
import ApiCall.Schema.Document

/-!
Directives as JSON documents.
-/

namespace ApiCall

open Json Json.Decoder

def Location.decoder : Decoder Location :=
  enumeration ([.query, .header, .path, .cookie, .formField].map fun l : Location => (l.name, l))

def Style.decoder : Decoder Style :=
  enumeration
    ([.form, .spaceDelimited, .pipeDelimited, .deepObject].map fun s : Style => (s.name, s))

def PartHeader.decoder : Decoder PartHeader :=
  record "struct HeaderDirective" default
    [required "argumentName" string fun argumentName h => { h with argumentName },
     required "schema" Schema.decoder fun schema h => { h with schema },
     optional "explode" bool fun explode h => { h with explode }]

private def directiveFields : List (RecordField Directive) :=
  [required "name" string fun name d => { d with name },
   optional "in" Location.decoder fun location d => { d with location },
   optional "style" Style.decoder fun style d => { d with style },
   optional "explode" (option bool) fun explode d => { d with explode },
   optional "allowReserved" bool fun allowReserved d => { d with allowReserved },
   optional "contentType" (option (list string)) fun contentTypes d => { d with contentTypes },
   optional "headers" (dict PartHeader.decoder) fun headers d => { d with headers }]

def Directive.decoder : Decoder Directive :=
  record "struct EncodingDirective" { name := "" } directiveFields

end ApiCall
