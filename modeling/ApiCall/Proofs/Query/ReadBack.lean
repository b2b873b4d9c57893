import ApiCall.Proofs.Text.Percent
import ApiCall.Proofs.Text.Split
import ApiCall.QueryString
import Mathlib

/-!
Reading a query text back: it is cut at `&`, each piece at its first `=`, and both sides are
percent-decoded. Whatever was escaped comes back (`read?_text`); where reserved characters are
allowed, a key must have no delimiter of its own and a value no `&`.
-/

namespace ApiCall

namespace QueryString

/-- The key and the value on both sides of the first `=`. -/
def readEntry? (piece : List Char) : Option (String × String) := do
  let key ← stringOf? (Percent.decode (Utf8.encode (piece.takeWhile (· != '='))))
  let value ← stringOf? (Percent.decode (Utf8.encode ((piece.dropWhile (· != '=')).drop 1)))
  return (key, value)

/-- The entries of a query text. The empty text has none. -/
def read? (text : String) : Option (List (String × String)) :=
  if text = "" then some [] else (text.toList.splitOn '&').mapM readEntry?

end QueryString

/-- The delimiters of the query text are told apart from the entry's own characters. -/
def QueryEntry.Separable (e : QueryEntry) : Prop :=
  e.allowReserved = true → '&' ∉ e.key.toList ∧ '=' ∉ e.key.toList ∧ '&' ∉ e.value.toList

namespace Percent

/-- The characters that a query keeps. -/
def isQueryKept (allowReserved : Bool) (c : Char) : Bool :=
  isUnreserved c || (allowReserved && isReserved c)

theorem isQueryKept_keepsAscii (allowReserved : Bool) : KeepsAscii (isQueryKept allowReserved) := by
  intro c hc
  have hreserved :
      (":/?#[]@!$&'()*+,;=".toList.all fun d => d.toNat < 0x80 && d != '%') = true := by
    decide
  simp only [isQueryKept, isUnreserved, isReserved, Bool.or_eq_true, Bool.and_eq_true,
    beq_iff_eq, List.contains_iff_mem] at hc
  rcases hc with ((((hc | rfl) | rfl) | rfl) | rfl) | ⟨_, hc⟩
  · refine ⟨toNat_lt_of_isAlphanum hc, ?_⟩
    rintro rfl
    exact absurd hc (by decide)
  · decide
  · decide
  · decide
  · decide
  · simpa using List.all_eq_true.mp hreserved c hc

end Percent

theorem toList_escapeComponent (text : String) (allowReserved : Bool) :
    (escapeComponent text allowReserved).toList =
      Percent.encode (Percent.isQueryKept allowReserved) text.toList := by
  rw [escapeComponent, String.toList_ofList]
  rfl

theorem decode_escapeComponent (text : String) (allowReserved : Bool) :
    stringOf? (Percent.decode (Utf8.encode (escapeComponent text allowReserved).toList)) =
      some text := by
  rw [toList_escapeComponent,
    Percent.decode_encode (Percent.isQueryKept_keepsAscii allowReserved)]
  exact stringOf?_bytesOf text

/-- A delimiter stands in an escaped component only if it stood in the text and is allowed to. -/
theorem mem_escapeComponent {text : String} {allowReserved : Bool} {x : Char}
    (hx : x = '&' ∨ x = '=') (h : x ∈ (escapeComponent text allowReserved).toList) :
    allowReserved = true ∧ x ∈ text.toList := by
  have hplain : x ≠ '%' ∧ x.isAlphanum = false ∧ Percent.isUnreserved x = false := by
    rcases hx with rfl | rfl <;> decide
  rw [toList_escapeComponent] at h
  rcases Percent.mem_encode h with ⟨hkept, hmem⟩ | h | h
  · refine ⟨?_, hmem⟩
    simp only [Percent.isQueryKept, hplain.2.2, Bool.false_or, Bool.and_eq_true] at hkept
    exact hkept.1
  · exact absurd h hplain.1
  · simp [hplain.2.1] at h

namespace QueryEntry

theorem toList_text (e : QueryEntry) :
    e.text.toList = (escapeComponent e.key e.allowReserved).toList ++
      '=' :: (escapeComponent e.value e.allowReserved).toList := by
  simp [text]

theorem not_mem_text {e : QueryEntry} (he : e.Separable) : '&' ∉ e.text.toList := by
  intro h
  rw [toList_text, List.mem_append, List.mem_cons] at h
  rcases h with h | h | h
  · obtain ⟨hallowed, hmem⟩ := mem_escapeComponent (Or.inl rfl) h
    exact (he hallowed).1 hmem
  · exact absurd h (by decide)
  · obtain ⟨hallowed, hmem⟩ := mem_escapeComponent (Or.inl rfl) h
    exact (he hallowed).2.2 hmem

theorem readEntry?_text {e : QueryEntry} (he : e.Separable) :
    QueryString.readEntry? e.text.toList = some (e.key, e.value) := by
  have hkey : ∀ c ∈ (escapeComponent e.key e.allowReserved).toList, (c != '=') = true := by
    intro c hc
    by_contra heq
    obtain rfl : c = '=' := by simpa using heq
    obtain ⟨hallowed, hmem⟩ := mem_escapeComponent (Or.inr rfl) hc
    exact (he hallowed).2.1 hmem
  rw [QueryString.readEntry?, toList_text, List.takeWhile_append_of_pos hkey,
    List.dropWhile_append_of_pos hkey]
  simp [decode_escapeComponent]

/-- Allowing reserved characters leaves exactly the reserved and unreserved ones as they are. -/
theorem bytesOf_text (e : QueryEntry) :
    bytesOf e.text =
      (bytesOf e.key).flatMap (Percent.escapeByte (Percent.isQueryKept e.allowReserved)) ++
        [61] ++
        (bytesOf e.value).flatMap (Percent.escapeByte (Percent.isQueryKept e.allowReserved)) := by
  have hkept := Percent.isQueryKept_keepsAscii e.allowReserved
  have hequals : Utf8.encode ['='] = [61] := by decide
  rw [bytesOf, toList_text, toList_escapeComponent, toList_escapeComponent, List.append_cons,
    Utf8.encode_append, Utf8.encode_append, hequals, Percent.encode_bytes hkept,
    Percent.encode_bytes hkept]
  rfl

end QueryEntry

namespace QueryString

theorem text_eq_empty_iff (q : QueryString) : q.text = "" ↔ q.entries = [] := by
  constructor
  · intro h
    cases hq : q.entries with
    | nil => rfl
    | cons e rest =>
        have hmem : '=' ∈ q.text.toList := by
          rw [text, hq, List.map_cons, String.toList_intercalate, List.map_cons]
          cases rest <;> simp [List.intercalate_cons_cons, QueryEntry.toList_text]
        rw [h] at hmem
        simp at hmem
  · intro h
    simp [text, h]

/-- A query text is read back as the entries that were added. -/
theorem read?_text {q : QueryString} (h : ∀ e ∈ q.entries, e.Separable) :
    read? q.text = some (q.entries.map fun e => (e.key, e.value)) := by
  unfold read?
  split
  · rename_i hempty
    rw [(text_eq_empty_iff q).mp hempty]
    rfl
  · rename_i hempty
    -- no piece holds the separator, so cutting undoes joining
    have hpieces : q.text.toList.splitOn '&' = q.entries.map fun e => e.text.toList := by
      have hjoin : q.text.toList = ['&'].intercalate (q.entries.map fun e => e.text.toList) := by
        rw [text, String.toList_intercalate, List.map_map]
        rfl
      rw [hjoin]
      apply List.splitOn_intercalate
      · intro piece hpiece
        obtain ⟨e, he, rfl⟩ := List.mem_map.mp hpiece
        exact QueryEntry.not_mem_text (h e he)
      · intro hnil
        exact hempty ((text_eq_empty_iff q).mpr (List.map_eq_nil_iff.mp hnil))
    rw [hpieces]
    exact Split.mapM_map_eq_some fun e he => QueryEntry.readEntry?_text (h e he)

end QueryString

end ApiCall
