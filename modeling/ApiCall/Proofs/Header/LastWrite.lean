import ApiCall.Proofs.Header.Text
import ApiCall.Proofs.Success

/-!
Headers that are set one after the other. Their names stay in lower case and in strict order, so a
name has one place at most (`Headers.IsMap`), and what is sent under it in any case is the value of
the last header of that name (`Headers.sentUnder_of_setAll`).
-/

namespace ApiCall

namespace Headers

/-- The values under a name in any case, in the order in which they are sent. -/
def sentUnder (h : Headers) (name : String) : List Bytes :=
  (h.toList.filter fun header => sameIgnoringCase header.1 name).map Prod.snd

/-- The value of the last header of a name in any case. -/
def lastValue? (headers : List (String × String)) (name : String) : Option String :=
  (headers.filter fun header => sameIgnoringCase header.1 name).getLast?.map Prod.snd

/-- Sets headers one after the other. -/
def setAll (h : Headers) (headers : List (String × String)) : Except Error Headers :=
  headers.foldlM (fun h (name, value) => h.set name value) h

/-- The names are in lower case, and each stands before the greater ones. -/
structure IsMap (h : Headers) : Prop where
  lower : ∀ entry ∈ h.entries, lowerAscii entry.1 = entry.1
  sorted : h.entries.Pairwise fun first second => first.1 < second.1

/-! ### One header -/

theorem set_eq_ok {h h' : Headers} {name value : String} (hset : h.set name value = .ok h') :
    IsHeaderText name value ∧ h' = h.insert (lowerAscii name) (bytesOf value) := by
  unfold set at hset
  split at hset
  · rename_i lowered bytes hname hvalue
    obtain ⟨⟨hne, hchars, hsize⟩, rfl⟩ := headerName_eq_ok hname
    obtain ⟨hbytes, rfl⟩ := headerValue_eq_ok hvalue
    exact ⟨⟨hne, hchars, hsize, hbytes⟩, (Except.ok.inj hset).symm⟩
  · cases hset
  · cases hset

/-- Whether a header can be set does not depend on those that are set already. -/
theorem exists_set_eq_ok {h h' : Headers} {name value : String} (hset : h.set name value = .ok h')
    (g : Headers) : ∃ g', g.set name value = .ok g' := by
  unfold set at hset ⊢
  split at hset
  · exact ⟨_, rfl⟩
  · cases hset
  · cases hset

private theorem lookup_cons_if (other name : String) (values : List Bytes)
    (rest : List (String × List Bytes)) :
    ((name, values) :: rest).lookup other =
      if other = name then some values else rest.lookup other := by
  rw [List.lookup_cons]
  by_cases h : other = name
  · rw [if_pos h, beq_iff_eq.mpr h]
  · rw [if_neg h, beq_eq_false_iff_ne.mpr h]

theorem lookup_update_const (name other : String) (values : List Bytes)
    (entries : List (String × List Bytes)) :
    (update name (fun _ => values) entries).lookup other =
      if other = name then some values else entries.lookup other := by
  induction entries with
  | nil => exact lookup_cons_if other name values []
  | cons entry rest ih =>
      obtain ⟨n, old⟩ := entry
      unfold update
      split
      · rename_i hname
        subst hname
        rw [lookup_cons_if, lookup_cons_if]
        split
        · rfl
        · rfl
      split
      · exact lookup_cons_if other name values _
      · rename_i hname _
        rw [lookup_cons_if, lookup_cons_if, ih]
        by_cases hn : other = n
        · have hother : other ≠ name := fun heq => hname (heq.symm.trans hn)
          rw [if_pos hn, if_neg hother, if_pos hn]
        · rw [if_neg hn, if_neg hn]

theorem lookup_insert (h : Headers) (name other : String) (value : Bytes) :
    (h.insert name value).entries.lookup other =
      if other = name then some [value] else h.entries.lookup other :=
  lookup_update_const name other [value] h.entries

theorem mem_update {name : String} {change : List Bytes → List Bytes}
    {entries : List (String × List Bytes)} {entry : String × List Bytes}
    (h : entry ∈ update name change entries) :
    entry.1 = name ∨ ∃ old ∈ entries, old.1 = entry.1 := by
  induction entries with
  | nil =>
      obtain rfl := List.mem_singleton.mp h
      exact Or.inl rfl
  | cons first rest ih =>
      obtain ⟨n, old⟩ := first
      unfold update at h
      split at h
      · rename_i hname
        rcases List.mem_cons.mp h with rfl | hmem
        · exact Or.inl hname.symm
        · exact Or.inr ⟨entry, List.mem_cons_of_mem _ hmem, rfl⟩
      split at h
      · rcases List.mem_cons.mp h with rfl | hmem
        · exact Or.inl rfl
        · exact Or.inr ⟨entry, hmem, rfl⟩
      · rcases List.mem_cons.mp h with rfl | hmem
        · exact Or.inr ⟨_, List.mem_cons_self, rfl⟩
        · rcases ih hmem with hname | ⟨other, hother, heq⟩
          · exact Or.inl hname
          · exact Or.inr ⟨other, List.mem_cons_of_mem _ hother, heq⟩

theorem sorted_update (name : String) (change : List Bytes → List Bytes)
    {entries : List (String × List Bytes)}
    (h : entries.Pairwise fun first second => first.1 < second.1) :
    (update name change entries).Pairwise fun first second => first.1 < second.1 := by
  induction entries with
  | nil => exact List.pairwise_singleton _ _
  | cons first rest ih =>
      obtain ⟨n, old⟩ := first
      obtain ⟨hfirst, hrest⟩ := List.pairwise_cons.mp h
      unfold update
      split
      · exact List.pairwise_cons.mpr ⟨hfirst, hrest⟩
      split
      · rename_i hlt
        refine List.pairwise_cons.mpr ⟨?_, h⟩
        intro entry hmem
        rcases List.mem_cons.mp hmem with rfl | hmem
        · exact hlt
        · exact hlt.trans (hfirst entry hmem)
      · rename_i hne hlt
        have hgt : n < name := lt_of_le_of_ne (not_lt.mp hlt) (Ne.symm hne)
        refine List.pairwise_cons.mpr ⟨?_, ih hrest⟩
        intro entry hmem
        rcases mem_update hmem with heq | ⟨other, hother, heq⟩
        · rw [heq]
          exact hgt
        · rw [← heq]
          exact hfirst other hother

theorem IsMap.insert {h : Headers} (hmap : h.IsMap) {name : String}
    (hlower : lowerAscii name = name) (value : Bytes) : (h.insert name value).IsMap := by
  refine ⟨?_, sorted_update name _ hmap.sorted⟩
  intro entry hmem
  rcases mem_update hmem with heq | ⟨old, hold, heq⟩
  · rw [heq, hlower]
  · rw [← heq, hmap.lower old hold]

/-! ### What a name tells of the headers -/

/-- Where the names are in strict order, a name stands only for what is looked up under it. -/
theorem mem_iff_lookup {entries : List (String × List Bytes)}
    (hsorted : entries.Pairwise fun first second => first.1 < second.1) (name : String)
    (values : List Bytes) : (name, values) ∈ entries ↔ entries.lookup name = some values := by
  induction entries with
  | nil => simp
  | cons entry rest ih =>
      obtain ⟨n, stored⟩ := entry
      obtain ⟨hfirst, hrest⟩ := List.pairwise_cons.mp hsorted
      rw [List.mem_cons, ih hrest, lookup_cons_if, Prod.mk.injEq]
      by_cases hname : name = n
      · subst hname
        have hnot : rest.lookup name ≠ some values := fun hlookup =>
          absurd (hfirst (name, values) ((ih hrest).mpr hlookup)) (lt_irrefl name)
        simp [hnot, eq_comm]
      · simp [hname]

/-- Headers with the same values under each name are the same. -/
theorem IsMap.ext {h h' : Headers} (hmap : h.IsMap) (hmap' : h'.IsMap)
    (hlookup : ∀ name, h.entries.lookup (lowerAscii name) = h'.entries.lookup (lowerAscii name)) :
    h = h' := by
  let before (first second : String × List Bytes) : Prop := first.1 < second.1
  have : Std.Irrefl before := ⟨fun entry => lt_irrefl entry.1⟩
  have : Std.Antisymm before := ⟨fun _ _ hlt hgt => absurd hgt (lt_asymm hlt)⟩
  have hmem {g g' : Headers} (hg : g.IsMap) (hg' : g'.IsMap)
      (heq : ∀ name, g.entries.lookup (lowerAscii name) = g'.entries.lookup (lowerAscii name)) :
      ∀ entry ∈ g.entries, entry ∈ g'.entries := by
    intro entry hentry
    have hlower := hg.lower entry hentry
    have hfound := (mem_iff_lookup hg.sorted entry.1 entry.2).mp hentry
    rw [← hlower, heq, hlower] at hfound
    exact (mem_iff_lookup hg'.sorted entry.1 entry.2).mpr hfound
  have hentries : h.entries = h'.entries :=
    List.Pairwise.eq_of_mem_iff (r := before) hmap.sorted hmap'.sorted fun entry =>
      ⟨hmem hmap hmap' hlookup entry, hmem hmap' hmap (fun name => (hlookup name).symm) entry⟩
  exact congrArg Headers.mk hentries

/-! ### What is sent under a name -/

/-- A name has one place at most, and what stands there is all that is sent under it. -/
theorem IsMap.sentUnder_eq {h : Headers} (hmap : h.IsMap) (name : String) :
    h.sentUnder name = h.values (lowerAscii name) := by
  obtain ⟨entries⟩ := h
  obtain ⟨hlower, hsorted⟩ := hmap
  rw [sentUnder, toList, values]
  change ∀ entry ∈ entries, _ at hlower
  change entries.Pairwise _ at hsorted
  induction entries with
  | nil => rfl
  | cons entry rest ih =>
      obtain ⟨n, stored⟩ := entry
      obtain ⟨hn, hlower⟩ := List.forall_mem_cons.mp hlower
      obtain ⟨hfirst, hsorted⟩ := List.pairwise_cons.mp hsorted
      rw [List.flatMap_cons, List.filter_append, List.map_append, ih hlower hsorted, lookup_cons_if]
      by_cases hname : lowerAscii name = n
      · -- the names after it are greater, so none of them is the same name
        have hnone : rest.lookup (lowerAscii name) = none := by
          rw [List.lookup_eq_none_iff]
          intro entry hmem
          rw [hname, bne_iff_ne]
          exact ne_of_lt (hfirst entry hmem)
        have hsame : sameIgnoringCase n name = true := by
          rw [sameIgnoringCase_iff, hn, hname]
        rw [hnone, if_pos hname]
        simp [List.filter_map, Function.comp_def, hsame]
      · have hother : sameIgnoringCase n name = false := by
          rw [Bool.eq_false_iff, Ne, sameIgnoringCase_iff, hn]
          exact Ne.symm hname
        rw [if_neg hname]
        simp [List.filter_map, Function.comp_def, hother]

/-! ### Headers one after the other -/

theorem lastValue?_append (first second : List (String × String)) (name : String) :
    lastValue? (first ++ second) name = (lastValue? second name).or (lastValue? first name) := by
  rw [lastValue?, List.filter_append, List.getLast?_append, Option.map_or]
  rfl

theorem lastValue?_singleton (header : String × String) (name : String) :
    lastValue? [header] name =
      if sameIgnoringCase header.1 name then some header.2 else none := by
  rw [lastValue?, List.filter_singleton]
  cases sameIgnoringCase header.1 name <;> rfl

theorem lastValue?_eq_none {headers : List (String × String)} {name : String}
    (h : ∀ header ∈ headers, sameIgnoringCase header.1 name = false) :
    lastValue? headers name = none := by
  have hnone : headers.filter (fun header => sameIgnoringCase header.1 name) = [] := by
    rw [List.filter_eq_nil_iff]
    intro header hheader
    rw [h header hheader]
    exact Bool.false_ne_true
  rw [lastValue?, hnone]
  rfl

theorem mem_of_lastValue? {headers : List (String × String)} {name text : String}
    (h : lastValue? headers name = some text) : ∃ header ∈ headers, header.2 = text := by
  obtain ⟨header, hlast, htext⟩ := Option.map_eq_some_iff.mp h
  exact ⟨header, List.mem_of_mem_filter (List.mem_of_getLast? hlast), htext⟩

theorem setAll_append {h h' h'' : Headers} {first second : List (String × String)}
    (hfirst : h.setAll first = .ok h') (hsecond : h'.setAll second = .ok h'') :
    h.setAll (first ++ second) = .ok h'' := by
  rw [setAll, List.foldlM_append]
  exact bind_eq_ok.mpr ⟨h', hfirst, hsecond⟩

/-- What setting some headers leads to: all of them are fit to be sent, names stay in order, and
each name has the value of its last header, or the one it had. -/
theorem setAll_eq_ok {h h' : Headers} {headers : List (String × String)} (hmap : h.IsMap)
    (hset : h.setAll headers = .ok h') :
    (∀ header ∈ headers, IsHeaderText header.1 header.2) ∧ h'.IsMap ∧
      ∀ name, h'.entries.lookup (lowerAscii name) =
        ((lastValue? headers name).map fun text => [bytesOf text]).or
          (h.entries.lookup (lowerAscii name)) := by
  induction headers generalizing h with
  | nil =>
      obtain rfl : h = h' := Except.ok.inj hset
      exact ⟨by simp, hmap, fun _ => rfl⟩
  | cons header rest ih =>
      rw [setAll, List.foldlM_cons] at hset
      obtain ⟨next, hnext, hrest⟩ := bind_eq_ok.mp hset
      obtain ⟨htext, rfl⟩ := set_eq_ok hnext
      obtain ⟨htexts, hmap', hlookup⟩ :=
        ih (hmap.insert (lowerAscii_lowerAscii header.1) (bytesOf header.2)) hrest
      refine ⟨List.forall_mem_cons.mpr ⟨htext, htexts⟩, hmap', ?_⟩
      intro name
      have hlast := lastValue?_append [header] rest name
      rw [List.singleton_append, lastValue?_singleton] at hlast
      rw [hlookup, lookup_insert, hlast]
      cases lastValue? rest name with
      | some text => rfl
      | none =>
          by_cases hsame : lowerAscii header.1 = lowerAscii name
          · rw [if_pos hsame.symm, if_pos (sameIgnoringCase_iff.mpr hsame)]
            rfl
          · rw [if_neg (Ne.symm hsame), if_neg (mt sameIgnoringCase_iff.mp hsame)]
            rfl

/-- Two ways to set headers lead to the same ones if the last header of each name is the same. -/
theorem setAll_congr {h g g' : Headers} {first second : List (String × String)} (hmap : h.IsMap)
    (hfirst : h.setAll first = .ok g) (hsecond : h.setAll second = .ok g')
    (hlast : ∀ name, lastValue? first name = lastValue? second name) : g = g' := by
  obtain ⟨_, hg, hlookup⟩ := setAll_eq_ok hmap hfirst
  obtain ⟨_, hg', hlookup'⟩ := setAll_eq_ok hmap hsecond
  apply hg.ext hg'
  intro name
  rw [hlookup, hlookup', hlast]

theorem isMap_empty : ({} : Headers).IsMap :=
  ⟨fun _ h => absurd h List.not_mem_nil, List.Pairwise.nil⟩

/-- Under a name stands the value of the last header that was set under it, and nothing else. -/
theorem sentUnder_of_setAll {h : Headers} {headers : List (String × String)}
    (hset : ({} : Headers).setAll headers = .ok h) (name : String) :
    h.sentUnder name = ((lastValue? headers name).map bytesOf).toList := by
  obtain ⟨_, hmap, hlookup⟩ := setAll_eq_ok isMap_empty hset
  rw [hmap.sentUnder_eq, values, hlookup]
  cases lastValue? headers name <;> rfl

end Headers

end ApiCall
