import ApiCall.Assembly
import Mathlib

/-!
Which credentials a request depends on. The first scheme in requirement order that has an injection
is honoured (`chooseInjection_eq_some_iff`), so only the names up to that one have a say, and of all
credentials only the one of the honoured scheme is sent (`Assembler.credentials_do_not_interfere`).
-/

namespace ApiCall

section Choice

variable {requirements : List Requirement} {schemes : List (String × SecurityScheme)}
  {credentials : List (String × Credential)}

/-- The honoured scheme has an injection, and no name before it has one. -/
theorem chooseInjection_eq_some_iff {name : String} {injection : Injection} :
    chooseInjection requirements schemes credentials = some (name, injection) ↔
      ∃ before after, requirements.flatMap Requirement.names = before ++ name :: after ∧
        injectionOf schemes credentials name = some injection ∧
        ∀ other ∈ before, injectionOf schemes credentials other = none := by
  rw [chooseInjection, List.findSome?_eq_some_iff]
  constructor
  · rintro ⟨before, found, after, hnames, hfound, hbefore⟩
    obtain ⟨injection', hinjection, heq⟩ := Option.map_eq_some_iff.mp hfound
    obtain ⟨rfl, rfl⟩ := Prod.mk.inj heq
    exact ⟨before, after, hnames, hinjection,
      fun other hother => Option.map_eq_none_iff.mp (hbefore other hother)⟩
  · rintro ⟨before, after, hnames, hinjection, hbefore⟩
    refine ⟨before, name, after, hnames, by rw [hinjection]; rfl, ?_⟩
    intro other hother
    rw [hbefore other hother]
    rfl

theorem chooseInjection_eq_none_iff :
    chooseInjection requirements schemes credentials = none ↔
      ∀ name ∈ requirements.flatMap Requirement.names,
        injectionOf schemes credentials name = none := by
  simp [chooseInjection, List.findSome?_eq_none_iff]

theorem injectionOf_of_not_configured (schemes : List (String × SecurityScheme)) {name : String}
    (h : credentials.lookup name = none) : injectionOf schemes credentials name = none := by
  rw [injectionOf, h]
  cases schemes.lookup name <;> rfl

end Choice

namespace Assembler

/-- The same server with other schemes and credentials. -/
def withSecurity (a : Assembler) (schemes : List (String × SecurityScheme))
    (credentials : List (String × Credential)) : Assembler :=
  { a with settings := { a.settings with securitySchemes := schemes, credentials } }

/-- The names of the schemes that an operation asks for: its own ones if it declares any list, even
an empty one, and those of the server if not. -/
def schemeNames (a : Assembler) (op : Operation) : List String :=
  (op.security.getD a.settings.security).flatMap Requirement.names

/-- The names that have a say in which scheme is honoured: the honoured one and those before it, or
all of them if none is. -/
def decisiveNames (a : Assembler) (op : Operation) : List String :=
  match a.injection op with
  | some (honoured, _) => (a.schemeNames op).takeWhile (· != honoured) ++ [honoured]
  | none => a.schemeNames op

/-- A name stands for the same scheme and has the same credential. -/
def AgreesOn (a : Assembler) (schemes : List (String × SecurityScheme))
    (credentials : List (String × Credential)) (name : String) : Prop :=
  schemes.lookup name = a.settings.securitySchemes.lookup name ∧
    credentials.lookup name = a.settings.credentials.lookup name

/-- The credential of the honoured scheme under its name, and nothing else. -/
def honouredCredential (a : Assembler) (op : Operation) : List (String × Credential) :=
  match a.injection op with
  | some (honoured, _) =>
    ((a.settings.credentials.lookup honoured).map fun credential => (honoured, credential)).toList
  | none => []

variable {a : Assembler} {op : Operation} {arguments : Arguments}

/-- The names before the honoured one are just those that have been passed over. -/
theorem decisiveNames_of_injection {honoured : String} {injection : Injection}
    (h : a.injection op = some (honoured, injection)) :
    ∃ before after, a.schemeNames op = before ++ honoured :: after ∧
      a.decisiveNames op = before ++ [honoured] ∧
      injectionOf a.settings.securitySchemes a.settings.credentials honoured = some injection ∧
      ∀ name ∈ before,
        injectionOf a.settings.securitySchemes a.settings.credentials name = none := by
  obtain ⟨before, after, hnames, hinjection, hbefore⟩ := chooseInjection_eq_some_iff.mp h
  refine ⟨before, after, hnames, ?_, hinjection, hbefore⟩
  have hdistinct : ∀ name ∈ before, (name != honoured) = true := by
    intro name hname
    rw [bne_iff_ne]
    rintro rfl
    rw [hbefore name hname] at hinjection
    cases hinjection
  change a.schemeNames op = _ at hnames
  rw [decisiveNames, h]
  dsimp only
  rw [hnames, List.takeWhile_append_of_pos hdistinct, List.takeWhile_cons_of_neg (by simp),
    List.append_nil]

/-- What is chosen depends on the decisive names alone. -/
theorem injection_withSecurity {schemes : List (String × SecurityScheme)}
    {credentials : List (String × Credential)}
    (h : ∀ name ∈ a.decisiveNames op, injectionOf schemes credentials name =
      injectionOf a.settings.securitySchemes a.settings.credentials name) :
    (a.withSecurity schemes credentials).injection op = a.injection op := by
  cases hchosen : a.injection op with
  | none =>
      rw [decisiveNames, hchosen] at h
      apply chooseInjection_eq_none_iff.mpr
      intro name hname
      exact (h name hname).trans (chooseInjection_eq_none_iff.mp hchosen name hname)
  | some chosen =>
      obtain ⟨honoured, injection⟩ := chosen
      obtain ⟨before, after, hnames, hdecisive, hinjection, hbefore⟩ :=
        decisiveNames_of_injection hchosen
      rw [hdecisive] at h
      refine chooseInjection_eq_some_iff.mpr ⟨before, after, hnames, ?_, ?_⟩
      · exact (h honoured (by simp)).trans hinjection
      · intro name hname
        exact (h name (by simp [hname])).trans (hbefore name hname)

theorem injectionOf_of_agreesOn {schemes : List (String × SecurityScheme)}
    {credentials : List (String × Credential)} {name : String}
    (h : a.AgreesOn schemes credentials name) :
    injectionOf schemes credentials name =
      injectionOf a.settings.securitySchemes a.settings.credentials name := by
  rw [injectionOf, injectionOf, h.1, h.2]

/-- Schemes and credentials reach a request through the injection that is chosen and in no other
way. -/
theorem assemble_withSecurity {schemes : List (String × SecurityScheme)}
    {credentials : List (String × Credential)}
    (h : (a.withSecurity schemes credentials).injection op = a.injection op) :
    (a.withSecurity schemes credentials).assemble op arguments = a.assemble op arguments := by
  have hdraft : (a.withSecurity schemes credentials).draft op arguments = a.draft op arguments :=
    rfl
  have hfinish (d : Draft) (body : Option Payload) :
      (a.withSecurity schemes credentials).finish op d body = a.finish op d body := by
    unfold finish
    rw [h]
    rfl
  rw [assemble, assemble, hdraft]
  simp only [hfinish]

theorem length_honouredCredential_le (a : Assembler) (op : Operation) :
    (a.honouredCredential op).length ≤ 1 := by
  unfold honouredCredential
  split
  · exact Option.length_toList_le
  · exact Nat.zero_le 1

theorem configured_of_mem_honouredCredential {entry : String × Credential}
    (h : entry ∈ a.honouredCredential op) :
    a.settings.credentials.lookup entry.1 = some entry.2 ∧
      ∃ injection, a.injection op = some (entry.1, injection) := by
  unfold honouredCredential at h
  split at h
  · rename_i honoured injection hchosen
    obtain ⟨credential, hcredential, rfl⟩ := Option.map_eq_some_iff.mp (Option.mem_toList.mp h)
    exact ⟨hcredential, injection, hchosen⟩
  · cases h

theorem lookup_honouredCredential {honoured : String} {injection : Injection}
    (h : a.injection op = some (honoured, injection)) (name : String) :
    (a.honouredCredential op).lookup name =
      if name = honoured then a.settings.credentials.lookup honoured else none := by
  rw [honouredCredential, h]
  dsimp only
  cases a.settings.credentials.lookup honoured with
  | none => simp
  | some credential =>
      rw [Option.map_some, Option.toList_some, List.lookup_cons]
      split
      · rename_i heq
        rw [if_pos (beq_iff_eq.mp heq)]
      · rename_i hne
        rw [if_neg (beq_eq_false_iff_ne.mp hne)]
        rfl

/-- Without all other credentials the decisive names have the same injections: those before the
honoured one had none anyway. -/
theorem injectionOf_honouredCredential {name : String} (hname : name ∈ a.decisiveNames op) :
    injectionOf a.settings.securitySchemes (a.honouredCredential op) name =
      injectionOf a.settings.securitySchemes a.settings.credentials name := by
  cases hchosen : a.injection op with
  | none =>
      rw [decisiveNames, hchosen] at hname
      rw [chooseInjection_eq_none_iff.mp hchosen name hname]
      refine injectionOf_of_not_configured _ ?_
      rw [honouredCredential, hchosen]
      rfl
  | some chosen =>
      obtain ⟨honoured, injection⟩ := chosen
      obtain ⟨before, after, _, hdecisive, _, hbefore⟩ := decisiveNames_of_injection hchosen
      have hlookup := lookup_honouredCredential hchosen name
      by_cases heq : name = honoured
      · rw [if_pos heq, ← heq] at hlookup
        rw [injectionOf, injectionOf, hlookup]
      · rw [if_neg heq] at hlookup
        have hmem : name ∈ before := by
          rw [hdecisive, List.mem_append, List.mem_singleton] at hname
          exact hname.resolve_right heq
        rw [hbefore name hmem, injectionOf_of_not_configured _ hlookup]

/-- A request is the same under other schemes and credentials, as far as these agree on the honoured
name and on those before it. An operation that asks for no scheme gets no credential, whatever is
configured, and no request depends on more than the one credential that is honoured. -/
theorem credentials_do_not_interfere (a : Assembler) (op : Operation) (arguments : Arguments) :
    (∀ schemes credentials, (∀ name ∈ a.decisiveNames op, a.AgreesOn schemes credentials name) →
      (a.withSecurity schemes credentials).assemble op arguments = a.assemble op arguments) ∧
    (op.security = some [] → a.injection op = none ∧ ∀ schemes credentials,
      (a.withSecurity schemes credentials).assemble op arguments = a.assemble op arguments) ∧
    ∃ kept : List (String × Credential), kept.length ≤ 1 ∧
      (∀ entry ∈ kept, a.settings.credentials.lookup entry.1 = some entry.2 ∧
        ∃ injection, a.injection op = some (entry.1, injection)) ∧
      (a.withSecurity a.settings.securitySchemes kept).assemble op arguments =
        a.assemble op arguments := by
  have hagreeing : ∀ schemes credentials,
      (∀ name ∈ a.decisiveNames op, a.AgreesOn schemes credentials name) →
        (a.withSecurity schemes credentials).assemble op arguments = a.assemble op arguments := by
    intro schemes credentials hagree
    apply assemble_withSecurity
    apply injection_withSecurity
    intro name hname
    exact injectionOf_of_agreesOn (hagree name hname)
  refine ⟨hagreeing, ?_, a.honouredCredential op, ?_, ?_, ?_⟩
  · intro hempty
    have hnone : a.injection op = none := by
      rw [injection, hempty]
      rfl
    refine ⟨hnone, ?_⟩
    intro schemes credentials
    apply hagreeing
    intro name hname
    rw [decisiveNames, hnone, schemeNames, hempty] at hname
    cases hname
  · exact length_honouredCredential_le a op
  · intro entry hentry
    exact configured_of_mem_honouredCredential hentry
  · exact assemble_withSecurity (injection_withSecurity fun _ => injectionOf_honouredCredential)

/-- The second of three names is honoured, since the first one has an empty token. The third one
gets another scheme and another credential. -/
theorem credentials_do_not_interfere_behind_honoured :
    let a : Assembler :=
      { settings :=
          { baseUrl := "http://[::1]/v1"
            securitySchemes :=
              [("key", .apiKey "key" .query), ("user", .http .bearer none), ("sso", .oauth2)]
            credentials := [("key", .token ""), ("user", .token "t0k"), ("sso", .token "s3c")]
            security := [⟨[("key", []), ("user", [])]⟩, ⟨[("sso", [])]⟩] }
        boundary := "B" }
    let op : Operation := { name := "me", method := .get, path := "/me" }
    let schemes : List (String × SecurityScheme) :=
      [("user", .http .bearer none), ("key", .apiKey "key" .query),
       ("sso", .apiKey "sid" .cookie)]
    let credentials : List (String × Credential) :=
      [("user", .token "t0k"), ("sso", .token "other"), ("key", .token "")]
    let request : Request :=
      { method := .get, url := ⟨"http", some "[::1]", "/v1/me", none, none⟩
        headers := ⟨[("authorization", [bytesOf "Bearer t0k"])]⟩ }
    a.decisiveNames op = ["key", "user"] ∧
      (∀ name ∈ a.decisiveNames op, a.AgreesOn schemes credentials name) ∧
      (a.withSecurity schemes credentials).assemble op [] = .ok request := by
  intro a op schemes credentials request
  have hdecisive : a.decisiveNames op = ["key", "user"] := by decide
  have hagree : ∀ name ∈ a.decisiveNames op, a.AgreesOn schemes credentials name := by
    rw [hdecisive]
    intro name hname
    rcases List.mem_pair.mp hname with rfl | rfl
    · exact ⟨by decide, by decide⟩
    · exact ⟨by decide, by decide⟩
  have h : a.assemble op [] = .ok request := by cbv
  have hsame := (credentials_do_not_interfere a op []).1 schemes credentials hagree
  exact ⟨hdecisive, hagree, hsame.trans h⟩

end Assembler

end ApiCall
