import ApiCall.Log
import ApiCall.PathTemplate
import ApiCall.Request
import ApiCall.Url.Reader

/-!
Assembling the request of an operation from its arguments. The first thing that is wrong ends it, in
this order: the headers of the server, the parameters in declaration order, the body, the
credential, the cookies and the URL. Of two headers of one name the later one stays, so a credential
wins over all else.
-/

namespace ApiCall

/-- What the parameters have contributed so far. -/
structure Draft where
  /-- The path template with some of its names replaced. -/
  path : String
  query : QueryString := {}
  headers : Headers := {}
  cookies : List String := []
  deriving DecidableEq, Repr

namespace Draft

/-- Sets a header. -/
def withHeader (d : Draft) (name value : String) : Except Error Draft := do
  return { d with headers := ← d.headers.set name value }

/-- Adds the items of a parameter in its location. -/
def withItems (d : Draft) (p : Parameter) (items : Items) : Except Error Draft :=
  let name := p.directive.name
  match p.directive.location with
  | .path =>
    if items.isEmpty then .error (.valueMissing p.argumentName)
    else do return { d with path := ← PathTemplate.substitute d.path name items }
  | .query =>
    .ok { d with
      query := d.query.extend (p.directive.entries name items) p.directive.allowReserved }
  | .header =>
    match items.headerText (p.directive.explode.getD false) with
    | some value => d.withHeader name value
    | none => .ok d
  | .cookie => .ok { d with cookies := d.cookies ++ p.directive.cookiePairs name items }
  | .formField => .error (.unsupportedLocation p.argumentName p.directive.location)

/-- Adds a parameter with the value that the arguments hold for it. -/
def withParameter (r : Registry) (arguments : Arguments) (d : Draft) (p : Parameter) :
    Except Error Draft := do
  let items ← r.encode p.schema (arguments.lookup p.argumentName) { root := p.argumentName }
  d.withItems p items

/-- Adds a credential. -/
def withInjection (d : Draft) : Injection → Except Error Draft
  | .header name value => d.withHeader name value
  | .query name value => .ok { d with query := d.query.append name value false }
  | .cookie name value => .ok { d with cookies := d.cookies ++ [name ++ "=" ++ value] }

/-- Joins all cookies in one header, after those that it has already. -/
def withCookieHeader (d : Draft) : Except Error Draft :=
  if d.cookies.isEmpty then .ok d
  else
    d.withHeader "cookie" <|
      "; ".intercalate ((d.headers.text? "cookie").toList ++ d.cookies)

end Draft

/-- The URL of a path below a base, with one slash between the two. Without a base the path must be
a URL itself. -/
def joinUrl (base path : String) : Except Error Url :=
  let text :=
    if base.isEmpty then path
    else
      String.ofList ((base.toList.reverse.dropWhile (· == '/')).reverse ++
        '/' :: path.toList.dropWhile (· == '/'))
  match Url.parse text with
  | .ok url => .ok url
  | .error fault => .error (.invalidUrl fault)

/-- What all requests to one server are made from. -/
structure Assembler where
  registry : Registry := {}
  settings : Settings := {}
  /-- The boundary of multipart forms. -/
  boundary : String
  deriving Repr

namespace Assembler

/-- The draft and the body of a request, before a credential is added. -/
def draft (a : Assembler) (op : Operation) (arguments : Arguments) :
    Except Error (Draft × Option Payload) := do
  let start : Draft := { path := op.path }
  let d ← a.settings.headers.foldlM (fun d (name, value) => d.withHeader name value) start
  let d ← op.parameters.foldlM (Draft.withParameter a.registry arguments) d
  match op.body with
  | none => return (d, none)
  | some spec =>
    match ← spec.build a.registry a.boundary (arguments.lookup spec.argumentName) arguments with
    | none => return (d, none)
    | some payload => return (← d.withHeader "content-type" payload.contentType, some payload)

/-- The credential for an operation and the name of its scheme. -/
def injection (a : Assembler) (op : Operation) : Option (String × Injection) :=
  chooseInjection (op.security.getD a.settings.security) a.settings.securitySchemes
    a.settings.credentials

/-- The request of a draft. -/
def finish (a : Assembler) (op : Operation) (d : Draft) (body : Option Payload) :
    Except Error Request := do
  let d ←
    match a.injection op with
    | some (_, injection) => d.withInjection injection
    | none => pure d
  let d ← d.withCookieHeader
  let url ← joinUrl a.settings.baseUrl d.path
  return {
    method := op.method
    url
    query := d.query
    headers := d.headers
    body
    timeout := a.settings.resolveTimeout op.timeout
    retry := a.settings.resolveRetry op.retry }

/-- The request of an operation with arguments. -/
def assemble (a : Assembler) (op : Operation) (arguments : Arguments) : Except Error Request := do
  let (d, body) ← a.draft op arguments
  a.finish op d body

/-- The event of a credential that is added. -/
def injectionEvents (a : Assembler) (op : Operation) : List LogEvent :=
  match a.injection op with
  | some (scheme, _) =>
    [⟨.trace, "inject credential", [("operation", op.name), ("scheme", scheme)]⟩]
  | none => []

/-- The event of a request that is complete. -/
def assembledEvent (op : Operation) (r : Request) : LogEvent :=
  ⟨.debug, "assembled request",
    [("operation", op.name), ("method", op.method.name), ("url", r.fullUrl.text)]⟩

/-- The events that assembling leaves, also when it fails. -/
def events (a : Assembler) (op : Operation) (arguments : Arguments) : List LogEvent :=
  match a.draft op arguments with
  | .error _ => []
  | .ok (d, body) =>
    a.injectionEvents op ++
      match a.finish op d body with
      | .ok r => [assembledEvent op r]
      | .error _ => []

end Assembler

end ApiCall
