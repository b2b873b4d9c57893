import ApiCall.Proofs.Assembly.Credentials
import ApiCall.Proofs.Text.Base64
import Mathlib

/-!
Which scheme of the requirements is honoured. A name is passed over for four reasons: it is not
declared, it is not configured, its credential does not count, or the scheme has no use for it. The
first name that is not passed over is unique (`SchemeChoice.IsFirst.unique`), and it is the one that
is honoured (`chooseInjection_honours`), where a basic credential counts by its user name alone.
With a password and no user name something is configured, and yet the name is passed over
(`chooseInjection_honours_filled_iff`).
-/

namespace ApiCall

/-! ### Credentials that count and suit -/

/-- Something is configured: a token, a user name or a password. -/
def Credential.IsFilled : Credential → Prop
  | .token text => text ≠ ""
  | .basic username password => username ≠ "" ∨ password ≠ ""

/-- There is a token or a user name. -/
def Credential.IsNamed : Credential → Prop
  | .token text => text ≠ ""
  | .basic username _ => username ≠ ""

theorem Credential.isEmpty_eq_false {credential : Credential} :
    credential.isEmpty = false ↔ credential.IsNamed := by
  cases credential <;> simp [isEmpty, IsNamed]

theorem Credential.IsNamed.isFilled {credential : Credential} (h : credential.IsNamed) :
    credential.IsFilled := by
  cases credential with
  | token text => exact h
  | basic username password => exact Or.inl h

theorem Credential.IsFilled.isNamed_or {credential : Credential} (h : credential.IsFilled) :
    credential.IsNamed ∨ ∃ password, credential = .basic "" password := by
  cases credential with
  | token text => exact Or.inl h
  | basic username password =>
      by_cases hname : username = ""
      · exact Or.inr ⟨password, by rw [hname]⟩
      · exact Or.inl hname

/-- A token suits any scheme, a user name with a password only the basic one. -/
def SecurityScheme.Suits : SecurityScheme → Credential → Prop
  | _, .token _ => True
  | .http .basic _, .basic _ _ => True
  | _, .basic _ _ => False

theorem SecurityScheme.suits_iff {scheme : SecurityScheme} {credential : Credential} :
    scheme.Suits credential ↔ ∃ injection, scheme.injection credential = some injection := by
  rcases scheme with ⟨name, _ | _ | _⟩ | ⟨_ | _, header⟩ | _ | _ <;> cases credential <;>
    simp [Suits, injection]

/-! ### The first name that qualifies -/

namespace SchemeChoice

variable {names : List String} {schemes : List (String × SecurityScheme)}
  {credentials : List (String × Credential)} {counts : Credential → Prop}

/-- The name stands for a scheme and a credential that counts and suits it. -/
structure Qualifies (schemes : List (String × SecurityScheme))
    (credentials : List (String × Credential)) (counts : Credential → Prop) (name : String)
    (scheme : SecurityScheme) (credential : Credential) : Prop where
  declared : schemes.lookup name = some scheme
  configured : credentials.lookup name = some credential
  counted : counts credential
  suited : scheme.Suits credential

/-- The name does not qualify with any scheme and credential. -/
def PassedOver (schemes : List (String × SecurityScheme)) (credentials : List (String × Credential))
    (counts : Credential → Prop) (name : String) : Prop :=
  ∀ scheme credential, ¬ Qualifies schemes credentials counts name scheme credential

/-- The name qualifies, and all names before it are passed over. -/
structure IsFirst (names : List String) (schemes : List (String × SecurityScheme))
    (credentials : List (String × Credential)) (counts : Credential → Prop) (name : String)
    (scheme : SecurityScheme) (credential : Credential) : Prop where
  qualifies : Qualifies schemes credentials counts name scheme credential
  before : ∃ before after, names = before ++ name :: after ∧
    ∀ other ∈ before, PassedOver schemes credentials counts other

/-- The first name that qualifies is honoured, with the injection of its credential; if none does,
nothing is. -/
def Honours (names : List String) (schemes : List (String × SecurityScheme))
    (credentials : List (String × Credential)) (counts : Credential → Prop) :
    Option (String × Injection) → Prop
  | some (name, injection) => ∃ scheme credential,
      IsFirst names schemes credentials counts name scheme credential ∧
        scheme.injection credential = some injection
  | none => ∀ name ∈ names, PassedOver schemes credentials counts name

theorem Qualifies.unique {counts' : Credential → Prop} {name : String}
    {scheme scheme' : SecurityScheme} {credential credential' : Credential}
    (h : Qualifies schemes credentials counts name scheme credential)
    (h' : Qualifies schemes credentials counts' name scheme' credential') :
    scheme = scheme' ∧ credential = credential' :=
  ⟨Option.some.inj (h.declared.symm.trans h'.declared),
    Option.some.inj (h.configured.symm.trans h'.configured)⟩

theorem PassedOver.mono {counts' : Credential → Prop} {name : String}
    (h : PassedOver schemes credentials counts name)
    (hle : ∀ credential, counts' credential → counts credential) :
    PassedOver schemes credentials counts' name := by
  rintro scheme credential ⟨hdeclared, hconfigured, hcounted, hsuited⟩
  exact h scheme credential ⟨hdeclared, hconfigured, hle credential hcounted, hsuited⟩

theorem IsFirst.unique {name name' : String} {scheme scheme' : SecurityScheme}
    {credential credential' : Credential}
    (h : IsFirst names schemes credentials counts name scheme credential)
    (h' : IsFirst names schemes credentials counts name' scheme' credential') :
    name = name' ∧ scheme = scheme' ∧ credential = credential' := by
  obtain ⟨before, after, hnames, hbefore⟩ := h.before
  obtain ⟨before', after', hnames', hbefore'⟩ := h'.before
  have hname : name = name' := by
    rcases List.append_eq_append_iff.mp (hnames.symm.trans hnames') with
      ⟨middle, rfl, htail⟩ | ⟨middle, rfl, htail⟩
    · cases middle with
      | nil => exact (List.cons.inj htail).1
      | cons other middle =>
          obtain ⟨rfl, _⟩ := List.cons.inj htail
          exact absurd h.qualifies (hbefore' name (by simp) scheme credential)
    · cases middle with
      | nil => exact (List.cons.inj htail).1.symm
      | cons other middle =>
          obtain ⟨rfl, _⟩ := List.cons.inj htail
          exact absurd h'.qualifies (hbefore name' (by simp) scheme' credential')
  subst hname
  exact ⟨rfl, h.qualifies.unique h'.qualifies⟩

/-- Either all names are passed over, or one of them is the first that qualifies. -/
theorem passedOver_or_first (names : List String) (schemes : List (String × SecurityScheme))
    (credentials : List (String × Credential)) (counts : Credential → Prop) :
    (∀ name ∈ names, PassedOver schemes credentials counts name) ∨
      ∃ name scheme credential,
        IsFirst names schemes credentials counts name scheme credential := by
  induction names with
  | nil =>
      left
      simp
  | cons name rest ih =>
      by_cases hname : PassedOver schemes credentials counts name
      · rcases ih with hrest | ⟨found, scheme, credential, hfound, before, after, rfl, hbefore⟩
        · exact Or.inl (List.forall_mem_cons.mpr ⟨hname, hrest⟩)
        · right
          exact ⟨found, scheme, credential, hfound, name :: before, after, rfl,
            List.forall_mem_cons.mpr ⟨hname, hbefore⟩⟩
      · right
        simp only [PassedOver, not_forall, not_not] at hname
        obtain ⟨scheme, credential, hqualifies⟩ := hname
        exact ⟨name, scheme, credential, hqualifies, [], rest, rfl, by simp⟩

theorem IsFirst.not_passedOver {name : String} {scheme : SecurityScheme} {credential : Credential}
    (h : IsFirst names schemes credentials counts name scheme credential) :
    ¬ ∀ name ∈ names, PassedOver schemes credentials counts name := by
  obtain ⟨before, after, rfl, _⟩ := h.before
  intro hpassed
  exact hpassed name (by simp) scheme credential h.qualifies

section Filled

variable {chosen : Option (String × Injection)} {name : String} {scheme : SecurityScheme}
  {credential : Credential}

/-- Where all names are passed over although passwords count, none of them has a user name. -/
theorem Honours.filled_of_passedOver
    (h : Honours names schemes credentials Credential.IsNamed chosen)
    (hpassed : ∀ name ∈ names, PassedOver schemes credentials Credential.IsFilled name) :
    Honours names schemes credentials Credential.IsFilled chosen := by
  cases chosen with
  | none => exact hpassed
  | some chosen =>
      obtain ⟨scheme, credential, hfirst, _⟩ := h
      refine absurd (fun name hname => ?_) hfirst.not_passedOver
      exact (hpassed name hname).mono fun _ => Credential.IsNamed.isFilled

/-- A user name or token that comes first among all that is filled comes first by itself. -/
theorem Honours.filled_of_first (h : Honours names schemes credentials Credential.IsNamed chosen)
    (hfirst : IsFirst names schemes credentials Credential.IsFilled name scheme credential)
    (hnamed : credential.IsNamed) :
    Honours names schemes credentials Credential.IsFilled chosen := by
  obtain ⟨before, after, hnames, hbefore⟩ := hfirst.before
  have hfirst' : IsFirst names schemes credentials Credential.IsNamed name scheme credential := by
    refine ⟨{ hfirst.qualifies with counted := hnamed }, before, after, hnames, ?_⟩
    intro other hother
    exact (hbefore other hother).mono fun _ => Credential.IsNamed.isFilled
  cases chosen with
  | none => exact absurd h hfirst'.not_passedOver
  | some chosen =>
      obtain ⟨scheme', credential', hchosen, hinjection⟩ := h
      obtain ⟨rfl, rfl, rfl⟩ := hfirst'.unique hchosen
      exact ⟨scheme, credential, hfirst, hinjection⟩

/-- A password without a user name that comes first among all that is filled is not what is
honoured. -/
theorem IsFirst.not_honoured {password : String}
    (hfirst : IsFirst names schemes credentials Credential.IsFilled name scheme
      (.basic "" password))
    (h : Honours names schemes credentials Credential.IsNamed chosen) :
    ¬ Honours names schemes credentials Credential.IsFilled chosen := by
  intro hfilled
  cases chosen with
  | none => exact hfirst.not_passedOver hfilled
  | some chosen =>
      obtain ⟨scheme', credential', hchosen, _⟩ := hfilled
      obtain ⟨rfl, rfl, rfl⟩ := hfirst.unique hchosen
      obtain ⟨_, _, hnamed, _⟩ := h
      obtain ⟨_, rfl⟩ := hnamed.qualifies.unique hfirst.qualifies
      exact hnamed.qualifies.counted rfl

end Filled

end SchemeChoice

open SchemeChoice

variable {schemes : List (String × SecurityScheme)} {credentials : List (String × Credential)}

theorem injectionOf_eq_some_iff {name : String} {injection : Injection} :
    injectionOf schemes credentials name = some injection ↔ ∃ scheme credential,
      Qualifies schemes credentials Credential.IsNamed name scheme credential ∧
        scheme.injection credential = some injection := by
  constructor
  · intro h
    obtain ⟨scheme, hdeclared, h⟩ := Option.bind_eq_some_iff.mp h
    obtain ⟨credential, hconfigured, h⟩ := Option.bind_eq_some_iff.mp h
    cases hempty : credential.isEmpty with
    | true => simp [hempty] at h
    | false =>
        simp only [hempty, Bool.false_eq_true, if_false] at h
        exact ⟨scheme, credential, ⟨hdeclared, hconfigured, Credential.isEmpty_eq_false.mp hempty,
          SecurityScheme.suits_iff.mpr ⟨injection, h⟩⟩, h⟩
  · rintro ⟨scheme, credential, hname, hinjection⟩
    simp [injectionOf, hname.declared, hname.configured,
      Credential.isEmpty_eq_false.mpr hname.counted, hinjection]

theorem injectionOf_eq_none_iff {name : String} :
    injectionOf schemes credentials name = none ↔
      PassedOver schemes credentials Credential.IsNamed name := by
  constructor
  · intro h scheme credential hname
    obtain ⟨injection, hinjection⟩ := SecurityScheme.suits_iff.mp hname.suited
    rw [injectionOf_eq_some_iff.mpr ⟨scheme, credential, hname, hinjection⟩] at h
    cases h
  · intro h
    rw [Option.eq_none_iff_forall_ne_some]
    intro injection hinjection
    obtain ⟨scheme, credential, hname, _⟩ := injectionOf_eq_some_iff.mp hinjection
    exact h scheme credential hname

/-- What is chosen is the first name that qualifies, where user names and tokens count. -/
theorem chooseInjection_honours (requirements : List Requirement)
    (schemes : List (String × SecurityScheme)) (credentials : List (String × Credential)) :
    Honours (requirements.flatMap Requirement.names) schemes credentials Credential.IsNamed
      (chooseInjection requirements schemes credentials) := by
  cases hchosen : chooseInjection requirements schemes credentials with
  | none =>
      intro name hname
      exact injectionOf_eq_none_iff.mp (chooseInjection_eq_none_iff.mp hchosen name hname)
  | some chosen =>
      obtain ⟨name, injection⟩ := chosen
      obtain ⟨before, after, hnames, hname, hbefore⟩ := chooseInjection_eq_some_iff.mp hchosen
      obtain ⟨scheme, credential, hqualifies, hinjection⟩ := injectionOf_eq_some_iff.mp hname
      refine ⟨scheme, credential, ⟨hqualifies, before, after, hnames, ?_⟩, hinjection⟩
      intro other hother
      exact injectionOf_eq_none_iff.mp (hbefore other hother)

/-- The value for a basic scheme carries the user name, a colon and the password. -/
theorem injection_basic (header : Option String) (username password : String) :
    ∃ text, (SecurityScheme.http .basic header).injection (.basic username password) =
        some (.header (header.getD "Authorization") ("Basic " ++ text)) ∧
      Base64.decode (bytesOf text) = .ok (bytesOf (username ++ ":" ++ password)) := by
  refine ⟨(Credential.basic username password).basicText, rfl, ?_⟩
  rw [Credential.basicText, bytesOf, String.toList_ofList]
  exact Base64.decode_encode _

/-- The first declared name with a credential that suits its scheme is honoured, if tokens and user
names are what counts. If passwords count as well, it is honoured just if its credential is not a
password without a user name. -/
theorem first_filled_honoured_iff (requirements : List Requirement)
    (schemes : List (String × SecurityScheme)) (credentials : List (String × Credential)) :
    let names := requirements.flatMap Requirement.names
    let chosen := chooseInjection requirements schemes credentials
    Honours names schemes credentials Credential.IsNamed chosen ∧
      (Honours names schemes credentials Credential.IsFilled chosen ↔
        ¬ ∃ name scheme password, IsFirst names schemes credentials Credential.IsFilled name scheme
          (.basic "" password)) ∧
      ∀ header username password, ∃ text,
        (SecurityScheme.http .basic header).injection (.basic username password) =
            some (.header (header.getD "Authorization") ("Basic " ++ text)) ∧
          Base64.decode (bytesOf text) = .ok (bytesOf (username ++ ":" ++ password)) := by
  intro names chosen
  have hhonours : Honours names schemes credentials Credential.IsNamed chosen :=
    chooseInjection_honours requirements schemes credentials
  refine ⟨hhonours, ⟨?_, ?_⟩, injection_basic⟩
  · rintro hfilled ⟨name, scheme, password, hfirst⟩
    exact hfirst.not_honoured hhonours hfilled
  · intro hnone
    rcases passedOver_or_first names schemes credentials Credential.IsFilled with
      hpassed | ⟨name, scheme, credential, hfirst⟩
    · exact hhonours.filled_of_passedOver hpassed
    · rcases hfirst.qualifies.counted.isNamed_or with hnamed | ⟨password, rfl⟩
      · exact hhonours.filled_of_first hfirst hnamed
      · exact absurd ⟨name, scheme, password, hfirst⟩ hnone

/-- Four names are passed over, one for each reason, before the one that is honoured. -/
theorem first_filled_honoured_after_four :
    let requirements : List Requirement :=
      [⟨[("gone", []), ("idle", [])]⟩, ⟨[("blank", []), ("odd", []), ("user", []), ("key", [])]⟩]
    let schemes : List (String × SecurityScheme) :=
      [("idle", .oauth2), ("blank", .apiKey "k" .query), ("odd", .http .bearer none),
       ("user", .http .basic none), ("key", .apiKey "k" .header)]
    let credentials : List (String × Credential) :=
      [("gone", .token "t"), ("blank", .token ""), ("odd", .basic "u" "p"),
       ("user", .basic "u" "p"), ("key", .token "t")]
    let chosen := chooseInjection requirements schemes credentials
    chosen = some ("user", .header "Authorization" "Basic dTpw") ∧
      Honours (requirements.flatMap Requirement.names) schemes credentials Credential.IsFilled
        chosen := by
  intro requirements schemes credentials chosen
  refine ⟨by decide, ?_⟩
  apply (first_filled_honoured_iff requirements schemes credentials).2.1.mpr
  rintro ⟨name, scheme, password, hfirst⟩
  have hmem := Assoc.mem_of_lookup hfirst.qualifies.configured
  simp [credentials] at hmem

/-- A password is configured, but nothing is sent. -/
theorem password_without_name_not_honoured :
    let requirements : List Requirement := [⟨[("basic", [])]⟩]
    let schemes : List (String × SecurityScheme) := [("basic", .http .basic none)]
    let credentials : List (String × Credential) := [("basic", .basic "" "secret")]
    let chosen := chooseInjection requirements schemes credentials
    chosen = none ∧
      Qualifies schemes credentials Credential.IsFilled "basic" (.http .basic none)
        (.basic "" "secret") ∧
      ¬ Honours (requirements.flatMap Requirement.names) schemes credentials Credential.IsFilled
        chosen := by
  intro requirements schemes credentials chosen
  have hqualifies : Qualifies schemes credentials Credential.IsFilled "basic" (.http .basic none)
      (.basic "" "secret") :=
    ⟨rfl, rfl, Or.inr (by decide), trivial⟩
  have hchosen : chosen = none := by decide
  refine ⟨hchosen, hqualifies, ?_⟩
  rw [hchosen]
  intro hnone
  exact hnone "basic" (by simp [requirements, Requirement.names]) _ _ hqualifies

end ApiCall
