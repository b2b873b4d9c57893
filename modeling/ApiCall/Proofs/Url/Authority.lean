import ApiCall.Proofs.Url.Below
import ApiCall.Proofs.Url.Host

/-!
The authority of a network URL: user information, host and port. It ends before the first slash,
backslash, question mark or number sign (`Url.authority_of_parse`), and controls or blanks at its
end are not accepted (`Url.lt_of_readAuthority`). So a base keeps its authority when a slash and
any other text are added behind it (`Url.authority_of_joined`).
-/

namespace ApiCall

/-! ### Host and port -/

theorem Host.append_split (inBrackets : Bool) (cs : List Char) :
    (split inBrackets cs).1 ++ (split inBrackets cs).2 = cs := by
  induction cs generalizing inBrackets with
  | nil => rfl
  | cons c cs ih =>
      unfold split
      split
      · rfl
      · exact congrArg (c :: ·) (ih _)

/-- The port part starts with its colon. -/
theorem Host.split_snd (inBrackets : Bool) (cs : List Char) :
    (split inBrackets cs).2 = [] ∨ ∃ rest, (split inBrackets cs).2 = ':' :: rest := by
  induction cs generalizing inBrackets with
  | nil => exact Or.inl rfl
  | cons c cs ih =>
      unfold split
      split
      · rename_i hcolon
        exact Or.inr ⟨cs, by rw [hcolon.1]⟩
      · exact ih _

namespace Url

/-- What stands before and after the last `@`. -/
def userAndPlace (cs : List Char) : List Char × List Char :=
  (splitLast '@' cs).getD ([], cs)

theorem userAndPlace_concat {z : Char} (h : z ≠ '@') (cs : List Char) :
    ∃ place, (userAndPlace (cs ++ [z])).2 = place ++ [z] ∧ place ⊆ cs := by
  have honce : Split.once '@' (cs ++ [z]).reverse =
      (Split.once '@' cs.reverse).map fun cut => (z :: cut.1, cut.2) := by
    rw [List.reverse_concat, Split.once, if_neg (by simpa using h)]
  unfold userAndPlace splitLast
  rw [honce]
  cases hcut : Split.once '@' cs.reverse with
  | none => exact ⟨cs, rfl, List.Subset.refl cs⟩
  | some cut =>
      obtain ⟨before, after⟩ := cut
      refine ⟨before.reverse, by simp, ?_⟩
      intro c hc
      have hmem : c ∈ cs.reverse := by
        rw [(Split.of_once_eq_some hcut).1]
        exact List.mem_append_left _ (List.mem_reverse.mp hc)
      exact List.mem_reverse.mp hmem

theorem readPort_snd {cs rest : List Char} {port : Option Nat}
    (h : readPort cs = .ok (port, rest)) : rest = cs.dropWhile Char.isDigit := by
  unfold readPort at h
  rw [List.span_eq_takeWhile_dropWhile] at h
  dsimp only at h
  split at h
  · split at h
    · cases h
      rfl
    · cases h
  · cases h

/-- What is read as the authority of a network URL has a host and, behind it, nothing but a port. -/
theorem readAuthority_eq_ok {standard : Nat} {cs : List Char} {goesOn : Bool}
    {result : List Char × List Char}
    (h : readAuthority (.network standard) cs goesOn = .ok result) :
    ∃ host port rest,
      Host.special (Host.split false (userAndPlace cs).2).1 = .ok host ∧
      readPort ((Host.split false (userAndPlace cs).2).2.drop 1) = .ok (port, rest) ∧
      (rest = [] ∨ rest.head? = some '\\') ∧
      result =
        (userText (userAndPlace cs).1 ++ host ++ portText (.network standard) port, rest) := by
  unfold readAuthority at h
  obtain ⟨_, h⟩ := guard_eq_ok.mp h
  obtain ⟨_, h⟩ := guard_eq_ok.mp h
  obtain ⟨host, hhost, h⟩ := bind_eq_ok.mp h
  obtain ⟨⟨port, rest⟩, hport, h⟩ := bind_eq_ok.mp h
  obtain ⟨hrest, h⟩ := guard_eq_ok.mp h
  obtain ⟨_, h⟩ := guard_eq_ok.mp h
  refine ⟨host, port, rest, hhost, hport, ?_, (Except.ok.inj h).symm⟩
  rw [or_iff_not_imp_left]
  simpa using hrest

/-- Whether the URL goes on after its authority makes no difference to what is read. -/
theorem readAuthority_unique {standard : Nat} {cs : List Char} {first second : Bool}
    {result other : List Char × List Char}
    (hfirst : readAuthority (.network standard) cs first = .ok result)
    (hsecond : readAuthority (.network standard) cs second = .ok other) : result = other := by
  obtain ⟨host, port, rest, hhost, hport, _, rfl⟩ := readAuthority_eq_ok hfirst
  obtain ⟨host', port', rest', hhost', hport', _, rfl⟩ := readAuthority_eq_ok hsecond
  cases hhost.symm.trans hhost'
  cases hport.symm.trans hport'
  rfl

theorem readAuthority_nil (standard : Nat) (goesOn : Bool) :
    readAuthority (.network standard) [] goesOn = .error .emptyHost := by
  cases goesOn with
  | false => rfl
  | true => rfl

theorem isDigit_of_le {z : Char} (h : z.toNat ≤ 32) : z.isDigit = false := by
  have small : ∀ n : Fin 33, (Char.ofNat n).isDigit = false := by decide
  simpa using small ⟨z.toNat, by omega⟩

/-- An authority does not end with a control or a blank: neither its host nor its port does. -/
theorem lt_of_readAuthority {standard : Nat} {z : Char} {cs : List Char} {goesOn : Bool}
    {result : List Char × List Char} (hslash : '\\' ∉ cs)
    (h : readAuthority (.network standard) (cs ++ [z]) goesOn = .ok result) : 32 < z.toNat := by
  by_contra hz
  rw [Nat.not_lt] at hz
  have hne {c : Char} (hc : 32 < c.toNat) : z ≠ c := by
    rintro rfl
    omega
  obtain ⟨place, hplace, hsubset⟩ := userAndPlace_concat (hne (c := '@') (by decide)) cs
  obtain ⟨host, port, rest, hhost, hport, hrest, _⟩ := readAuthority_eq_ok h
  rw [hplace] at hhost hport
  have hsplit := Host.append_split false (place ++ [z])
  rcases Host.split_snd false (place ++ [z]) with hnone | ⟨digits, hcolon⟩
  · -- without a port the character is the last one of the host
    rw [hnone, List.append_nil] at hsplit
    rw [hsplit] at hhost
    exact absurd (Host.lt_of_special hhost) (Nat.not_lt.mpr hz)
  · -- behind the port stands the character, and what begins there is no backslash
    rw [hcolon, List.drop_one, List.tail_cons] at hport
    obtain rfl := readPort_snd hport
    rw [hcolon] at hsplit
    rcases List.eq_nil_or_concat digits with rfl | ⟨before, last, rfl⟩
    · have hlast := List.singleton_inj.mp (List.append_inj' hsplit rfl).2
      exact hne (by decide) hlast.symm
    · rw [List.concat_eq_append] at hsplit hrest
      rw [← List.cons_append, ← List.append_assoc] at hsplit
      obtain ⟨hbefore, hlast⟩ := List.append_inj' hsplit rfl
      obtain rfl := List.singleton_inj.mp hlast
      rw [dropWhile_append_cons (isDigit_of_le hz)] at hrest
      have hmem : '\\' ∈ before.dropWhile Char.isDigit ++ [last] :=
        List.mem_of_mem_head? (hrest.resolve_left (by simp))
      rcases List.mem_append.mp hmem with hmem | hmem
      · apply hslash
        apply hsubset
        rw [← hbefore]
        exact List.mem_append_right _ (List.mem_cons_of_mem _ (List.dropWhile_subset _ hmem))
      · exact hne (by decide) (List.mem_singleton.mp hmem).symm

/-! ### The authority of a text -/

/-- Slashes of a network URL. -/
def isSlash (c : Char) : Bool :=
  c == '/' || c == '\\'

/-- The character stands in an authority, if it begins there. -/
def isInAuthority (c : Char) : Bool :=
  !isSlash c && c != '?' && c != '#'

/-- The authority in what follows the colon of a network scheme. -/
def authorityPart (rest : List Char) : List Char :=
  (rest.dropWhile isSlash).takeWhile isInAuthority

theorem isSlash_network (standard : Nat) : (SchemeKind.network standard).isSlash = isSlash := by
  funext c
  simp [SchemeKind.isSlash, SchemeKind.isSpecial, isSlash]

theorem cut_fst (mark : Char) (cs : List Char) :
    (parse.cut mark cs).1 = cs.takeWhile (· != mark) := by
  have hall {before : List Char} (h : mark ∉ before) : before.takeWhile (· != mark) = before := by
    rw [List.takeWhile_eq_self_iff]
    intro c hc
    rw [bne_iff_ne]
    rintro rfl
    exact h hc
  unfold parse.cut
  split
  · rename_i before after honce
    obtain ⟨rfl, hmark⟩ := Split.of_once_eq_some honce
    rw [takeWhile_append_cons (by simp), hall hmark]
  · rename_i hnone
    exact (hall (Split.once_eq_none_iff.mp hnone)).symm

theorem dropWhile_takeWhile_comm {α : Type} {p q : α → Bool} (h : ∀ x, p x = true → q x = true)
    (xs : List α) : (xs.takeWhile q).dropWhile p = (xs.dropWhile p).takeWhile q := by
  induction xs with
  | nil => rfl
  | cons x xs ih =>
      by_cases hp : p x = true
      · rw [List.takeWhile_cons_of_pos (h x hp), List.dropWhile_cons_of_pos hp,
          List.dropWhile_cons_of_pos hp, ih]
      · rw [List.dropWhile_cons_of_neg hp]
        by_cases hq : q x = true
        · rw [List.takeWhile_cons_of_pos hq, List.dropWhile_cons_of_neg hp]
        · rw [List.takeWhile_cons_of_neg hq, List.dropWhile_nil]

/-- What is read as the authority does not depend on the path, the query and the fragment. -/
theorem authorityPart_eq (standard : Nat) (rest : List Char) :
    ((parse.cut '?' (parse.cut '#' rest).1).1.dropWhile
      (SchemeKind.network standard).isSlash).takeWhile
        (fun c => !(SchemeKind.network standard).isSlash c) = authorityPart rest := by
  have hmark (mark : Char) (hmark : isSlash mark = false) (c : Char) (hc : isSlash c = true) :
      (c != mark) = true := by
    rw [bne_iff_ne]
    rintro rfl
    exact absurd hc (by simp [hmark])
  rw [cut_fst, cut_fst, isSlash_network, dropWhile_takeWhile_comm (hmark '?' (by decide)),
    dropWhile_takeWhile_comm (hmark '#' (by decide)), List.takeWhile_takeWhile,
    List.takeWhile_takeWhile]
  refine congrArg (fun p => List.takeWhile p _) (funext fun c => ?_)
  simp only [isInAuthority, Bool.decide_and, Bool.decide_eq_true]

theorem scheme_of_parse {text : String} {url : Url} (h : parse text = .ok url) :
    ∃ scheme rest, splitScheme? (clean text.toList) = some (scheme, rest) ∧
      url.scheme = String.ofList scheme := by
  unfold parse at h
  cases hscheme : splitScheme? (clean text.toList) with
  | none =>
      rw [hscheme] at h
      cases h
  | some parts =>
      simp only [hscheme] at h
      obtain ⟨_, hparts, h⟩ := bind_eq_ok.mp h
      cases hparts
      obtain ⟨_, _, h⟩ := bind_eq_ok.mp h
      cases h
      exact ⟨parts.1, parts.2, rfl, rfl⟩

/-- The authority of a network URL is read from the part of its text where one begins. -/
theorem authority_of_parse {text : String} {url : Url} {standard : Nat} {scheme rest : List Char}
    (hscheme : splitScheme? (clean text.toList) = some (scheme, rest))
    (hkind : SchemeKind.ofName (String.ofList scheme) = .network standard)
    (h : parse text = .ok url) :
    url.scheme = String.ofList scheme ∧ ∃ goesOn authority left,
      readAuthority (.network standard) (authorityPart rest) goesOn = .ok (authority, left) ∧
      url.authority = some (String.ofList authority) := by
  unfold parse at h
  simp only [hscheme, pure_bind] at h
  obtain ⟨place, hplace, h⟩ := bind_eq_ok.mp h
  cases h
  refine ⟨rfl, ?_⟩
  rw [hkind] at hplace
  obtain ⟨⟨authority, path⟩, hread, hplace⟩ := bind_eq_ok.mp hplace
  cases hplace
  unfold readPlace at hread
  rw [List.span_eq_takeWhile_dropWhile, authorityPart_eq] at hread
  obtain ⟨⟨text, left⟩, hauthority, hread⟩ := bind_eq_ok.mp hread
  obtain rfl : text = authority := by
    dsimp only at hread
    split at hread
    · cases hread
      rfl
    · cases hread
      rfl
  exact ⟨_, text, left, hauthority, rfl⟩

/-! ### A base and a path below it -/

theorem splitScheme?_append {cs scheme rest : List Char} (h : splitScheme? cs = some (scheme, rest))
    (extra : List Char) : splitScheme? (cs ++ extra) = some (scheme, rest ++ extra) := by
  cases cs with
  | nil => cases h
  | cons c cs =>
      rw [splitScheme?] at h
      split at h
      · rename_i halpha
        split at h
        · rename_i name following hspan
          cases h
          rw [List.span_eq_takeWhile_dropWhile, Prod.mk.injEq] at hspan
          have hname : ∀ d ∈ name, isSchemeChar d = true := by
            rw [← hspan.1]
            exact fun d hd => List.mem_takeWhile_imp hd
          obtain rfl : cs = name ++ ':' :: rest := by
            rw [← hspan.1, ← hspan.2, List.takeWhile_append_dropWhile]
          rw [List.cons_append, splitScheme?, if_pos halpha, List.append_assoc, List.cons_append,
            span_append_cons (by decide), List.takeWhile_eq_self_iff.mpr hname,
            List.dropWhile_eq_nil_iff.mpr hname]
          rfl
        · cases h
      · cases h

theorem rdropWhile_append_rtakeWhile {α : Type} (p : α → Bool) (xs : List α) :
    xs.rdropWhile p ++ xs.rtakeWhile p = xs := by
  rw [List.rdropWhile, List.rtakeWhile, ← List.reverse_append, List.takeWhile_append_dropWhile,
    List.reverse_reverse]

/-- What follows the scheme of a base whose slashes at the end are replaced by one slash and any
text: either the base had no such slash, and controls or blanks at its end are part of it now, or
only what follows the slash is another. -/
theorem clean_joined {base scheme rest : List Char} (extra : List Char)
    (h : splitScheme? (clean base) = some (scheme, rest)) :
    ∃ joined below, splitScheme? (clean (base.rdropWhile (· == '/') ++ '/' :: extra)) =
        some (scheme, joined ++ '/' :: below) ∧
      ((∃ edge, (∀ c ∈ edge, c.toNat ≤ 32) ∧ joined = rest ++ edge) ∨
        ∃ slashes, (∀ c ∈ slashes, c = '/') ∧ rest = joined ++ '/' :: slashes) := by
  have hbase := rdropWhile_append_rtakeWhile (· == '/') base
  have hslash (c : Char) (hc : c ∈ base.rtakeWhile (· == '/')) : c = '/' :=
    by simpa using List.mem_rtakeWhile_imp hc
  generalize base.rdropWhile (· == '/') = start at hbase ⊢
  rw [clean_append_slash]
  cases hend : base.rtakeWhile (· == '/') with
  | nil =>
      rw [hend, List.append_nil] at hbase
      subst hbase
      have hstart := rdropWhile_append_rtakeWhile isEdge (start.dropWhile isEdge)
      rw [← hstart, List.filter_append, ← clean_eq, List.append_assoc, splitScheme?_append h]
      refine ⟨_, _, congrArg (fun joined => some (scheme, joined)) (List.append_assoc _ _ _).symm,
        Or.inl ⟨_, ?_, rfl⟩⟩
      intro c hc
      have hedge := List.mem_rtakeWhile_imp (List.mem_of_mem_filter hc)
      simpa [isEdge] using hedge
  | cons c slashes =>
      rw [hend] at hbase hslash
      obtain ⟨rfl, hslashes⟩ := List.forall_mem_cons.mp hslash
      rw [← hbase, clean_append_slash] at h
      obtain ⟨following, rfl, hfollowing⟩ := splitScheme?_below h
      refine ⟨following, _, hfollowing _, Or.inr ⟨_, ?_, rfl⟩⟩
      intro c hc
      exact hslashes c ((List.rdropWhile_prefix isEdge slashes).subset (List.mem_of_mem_filter hc))

theorem authorityPart_below {joined : List Char} (h : joined.dropWhile isSlash ≠ [])
    (below : List Char) : authorityPart (joined ++ '/' :: below) = authorityPart joined := by
  rw [authorityPart, List.dropWhile_append, if_neg (by simpa using h),
    takeWhile_append_cons (by decide)]
  rfl

/-- Controls and blanks behind an authority would be part of it, and it would not be read. -/
theorem authorityPart_append_edge {standard : Nat} {rest edge : List Char} {goesOn : Bool}
    {result : List Char × List Char} (hrest : rest.dropWhile isSlash ≠ [])
    (hedge : ∀ c ∈ edge, c.toNat ≤ 32)
    (h : readAuthority (.network standard) (authorityPart (rest ++ edge)) goesOn = .ok result) :
    authorityPart (rest ++ edge) = authorityPart rest := by
  have hinside : ∀ c ∈ edge, isInAuthority c = true := by
    have small : ∀ n : Fin 33, isInAuthority (Char.ofNat n) = true := by decide
    intro c hc
    have hle := hedge c hc
    simpa using small ⟨c.toNat, by omega⟩
  have hpart : authorityPart (rest ++ edge) =
      (rest.dropWhile isSlash ++ edge).takeWhile isInAuthority := by
    rw [authorityPart, List.dropWhile_append, if_neg (by simpa using hrest)]
  rw [hpart] at h ⊢
  by_cases hall : ∀ c ∈ rest.dropWhile isSlash, isInAuthority c = true
  · rcases List.eq_nil_or_concat edge with rfl | ⟨before, last, rfl⟩
    · rw [List.append_nil, authorityPart]
    · -- all of it would be the authority, with the last character at its end
      have hwhole : ∀ c ∈ rest.dropWhile isSlash ++ before.concat last, isInAuthority c = true := by
        intro c hc
        exact (List.mem_append.mp hc).elim (hall c) (hinside c)
      rw [List.takeWhile_eq_self_iff.mpr hwhole, List.concat_eq_append, ← List.append_assoc] at h
      have hslash : '\\' ∉ rest.dropWhile isSlash ++ before := by
        intro hmem
        have hmem' : '\\' ∈ rest.dropWhile isSlash ++ before.concat last := by
          rw [List.concat_eq_append, ← List.append_assoc]
          exact List.mem_append_left _ hmem
        exact absurd (hwhole _ hmem') (by decide)
      have hlast : last.toNat ≤ 32 := hedge last (by simp)
      exact absurd (lt_of_readAuthority hslash h) (Nat.not_lt.mpr hlast)
  · rw [List.takeWhile_append, if_neg]
    · rfl
    · intro hlength
      exact hall (List.takeWhile_eq_self_iff.mp
        ((List.takeWhile_prefix isInAuthority).eq_of_length hlength))

/-- Adding a slash and any text behind a base leaves scheme and authority as they are. -/
theorem authority_of_joined {base extra : List Char} {url joined : Url} {standard : Nat}
    (hbase : parse (String.ofList base) = .ok url)
    (hkind : SchemeKind.ofName url.scheme = .network standard)
    (hjoined : parse (String.ofList (base.rdropWhile (· == '/') ++ '/' :: extra)) = .ok joined) :
    joined.scheme = url.scheme ∧ joined.authority = url.authority := by
  obtain ⟨scheme, rest, hscheme, hname⟩ := scheme_of_parse hbase
  rw [hname] at hkind
  obtain ⟨_, first, authority, left, hread, hauthority⟩ :=
    authority_of_parse hscheme hkind hbase
  rw [String.toList_ofList] at hscheme
  obtain ⟨following, below, hjoinedScheme, hfollowing⟩ := clean_joined extra hscheme
  obtain ⟨hjoinedName, second, authority', left', hread', hauthority'⟩ :=
    authority_of_parse (by rw [String.toList_ofList]; exact hjoinedScheme) hkind hjoined
  refine ⟨hjoinedName.trans hname.symm, ?_⟩
  have hne : rest.dropWhile isSlash ≠ [] := by
    intro hnil
    rw [authorityPart, hnil, List.takeWhile_nil, readAuthority_nil] at hread
    cases hread
  have hparts : authorityPart (following ++ '/' :: below) = authorityPart rest := by
    rcases hfollowing with ⟨edge, hedge, rfl⟩ | ⟨slashes, hslashes, rfl⟩
    · have hlonger : (rest ++ edge).dropWhile isSlash ≠ [] := by
        rw [List.dropWhile_append, if_neg (by simpa using hne)]
        simp [hne]
      rw [authorityPart_below hlonger] at hread' ⊢
      exact authorityPart_append_edge hne hedge hread'
    · have hlonger : following.dropWhile isSlash ≠ [] := by
        intro hnil
        have hall : ∀ c ∈ '/' :: slashes, isSlash c = true := by
          intro c hc
          rcases List.mem_cons.mp hc with rfl | hc
          · decide
          · rw [hslashes c hc]
            decide
        apply hne
        rw [List.dropWhile_append, hnil, List.dropWhile_eq_nil_iff.mpr hall]
        rfl
      rw [authorityPart_below hlonger, authorityPart_below hlonger]
  rw [hparts] at hread'
  cases readAuthority_unique hread' hread
  rw [hauthority, hauthority']

end Url

end ApiCall
