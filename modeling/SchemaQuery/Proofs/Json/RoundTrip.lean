import SchemaQuery.Json.Reader
import SchemaQuery.Proofs.Json.Tokens
import SchemaQuery.Proofs.Table

/-!
# Documents read back

A document is read back from every text that is written for it, on one line or indented, as long as
its objects have no key twice and its strings can be told from their escapes. Whether a number
survives is left to the number: its digits have to be a run that reads as it.
-/

namespace SchemaQuery

namespace Json

open JsonToken

/-- A document that its texts tell apart from every other one. -/
inductive IsReadable (escaping : Escaping) : Json → Prop
  | null : IsReadable escaping null
  | bool (b : Bool) : IsReadable escaping (bool b)
  | int {n : Int} : IsLiteral (Text.ofInt n) (int n) → IsReadable escaping (int n)
  | float {x : Binary64} : IsLiteral (x.write specials) (float x) → IsReadable escaping (float x)
  | string {t : Text} : escaping = .controls ∨ t.isScalar = true → IsReadable escaping (string t)
  | array {items : List Json} : (∀ v ∈ items, IsReadable escaping v) →
    IsReadable escaping (array items)
  | object {entries : Entries Json} : entries.keys.Nodup →
    (∀ key ∈ entries.keys, escaping = .controls ∨ key.isScalar = true) →
    (∀ e ∈ entries, IsReadable escaping e.2) → IsReadable escaping (object entries)

/-- Where the tokens of a text lead the reader. -/
def readFrom (r : Reading) (t : Text) : Except JsonError Reading := (ofText t).foldlM readToken r

/-- The next token begins a value, and the value belongs into these open arrays and objects. -/
inductive AwaitsValue : Reading → List Frame → Prop
  | value (stack : List Frame) : AwaitsValue (.value stack) stack
  | arrayStart (stack : List Frame) : AwaitsValue (.arrayStart stack) (.array [] :: stack)

/-- The next token is a key of an object that has these entries so far. -/
inductive AwaitsKey : Reading → Entries Json → List Frame → Prop
  | key (entries : Entries Json) (stack : List Frame) : AwaitsKey (.key entries stack) entries stack
  | objectStart (stack : List Frame) : AwaitsKey (.objectStart stack) [] stack

variable {escaping : Escaping} {layout : Layout} {r : Reading} {stack : List Frame}

theorem readFrom_of_scan {t rest : Text} {token : JsonToken}
    (h : scan .between t = token :: scan .between rest) :
    readFrom r t = readToken r token >>= (readFrom · rest) := by
  simp only [readFrom, ofText, h, List.foldlM_cons]

theorem readFrom_literal (hr : AwaitsValue r stack) {t rest : Text} {v : Json}
    (h : IsLiteral t v) (hrest : EndsRun rest) :
    readFrom r (t ++ rest) = readFrom (.after v stack) rest := by
  rw [readFrom_of_scan (scan_literal h hrest)]
  cases hr <;> rfl

theorem readFrom_string (hr : AwaitsValue r stack) {t : Text}
    (h : escaping = .controls ∨ t.isScalar = true) (rest : Text) :
    readFrom r (writeString escaping t ++ rest) = readFrom (.after (string t) stack) rest := by
  rw [readFrom_of_scan (scan_writeString h rest)]
  cases hr <;> rfl

theorem readFrom_spaces {spaces : Text} (h : ∀ c ∈ spaces, isSpace c = true) (rest : Text) :
    readFrom r (spaces ++ rest) = readFrom r rest := by
  simp only [readFrom, ofText, scan_spaces h]

theorem isSpace_of_mem_lineBreak {level : Nat} {c : CodePoint} (h : c ∈ layout.lineBreak level) :
    isSpace c = true := by
  cases layout with
  | oneLine => simp [Layout.lineBreak] at h
  | indented width =>
    rcases List.mem_cons.1 h with rfl | h
    · rfl
    · rw [List.eq_of_mem_replicate h]
      rfl

theorem readFrom_lineBreak (level : Nat) (rest : Text) :
    readFrom r (layout.lineBreak level ++ rest) = readFrom r rest :=
  readFrom_spaces (fun _ => isSpace_of_mem_lineBreak) rest

theorem endsRun_lineBreak_append (level : Nat) {rest : Text} (h : EndsRun rest) :
    EndsRun (layout.lineBreak level ++ rest) := by
  cases layout with
  | oneLine => exact h
  | indented width => exact endsRun_cons rfl _

theorem endsRun_separator_append (level : Nat) (rest : Text) :
    EndsRun (layout.separator level ++ rest) := by
  cases layout <;> exact endsRun_cons rfl _

theorem readFrom_separator (level : Nat) (rest : Text) :
    readFrom r (layout.separator level ++ rest) = readToken r .comma >>= (readFrom · rest) := by
  have hcomma (spaces : Text) (h : ∀ c ∈ spaces, isSpace c = true) :
      scan .between (.scalar ',' :: (spaces ++ rest)) = comma :: scan .between rest := by
    rw [← scan_spaces h rest]
    rfl
  cases layout with
  | oneLine =>
    exact readFrom_of_scan (hcomma [.scalar ' '] (by simp [isSpace]))
  | indented width => exact readFrom_of_scan (hcomma _ fun _ => isSpace_of_mem_lineBreak)

/-- The reader takes up the document from its text, wherever it awaits a value. -/
def ReadsBack (escaping : Escaping) (layout : Layout) (v : Json) : Prop :=
  ∀ (level : Nat) {r : Reading} {stack : List Frame}, AwaitsValue r stack →
    ∀ {rest : Text}, EndsRun rest →
      readFrom r (writeAt escaping layout level v ++ rest) = readFrom (.after v stack) rest

theorem readFrom_items {items : List Json} (hne : items ≠ [])
    (h : ∀ v ∈ items, ReadsBack escaping layout v) (level : Nat) {done : List Json}
    (hr : AwaitsValue r (.array done :: stack)) {close : Text} (hclose : EndsRun close)
    {rest : Text} (hscan : scan .between close = closeArray :: scan .between rest) :
    readFrom r (Text.join (layout.separator level) (items.map (writeAt escaping layout level)) ++
        close) =
      readFrom (.after (.array (done.reverse ++ items)) stack) rest := by
  induction items generalizing r done with
  | nil => exact absurd rfl hne
  | cons v items ih =>
    have hv := h v List.mem_cons_self
    cases items with
    | nil =>
      rw [List.map_singleton, Text.join, List.intercalate_singleton, hv level hr hclose,
        readFrom_of_scan hscan,
        ← List.reverse_cons]
      rfl
    | cons w items =>
      have hitems := ih (List.cons_ne_nil w items) (fun u hu => h u (List.mem_cons_of_mem _ hu))
        (.value (.array (v :: done) :: stack))
      rw [List.reverse_cons, List.append_assoc, List.singleton_append] at hitems
      rw [List.map_cons, List.map_cons, Text.join, List.intercalate_cons_cons, List.append_assoc,
        List.append_assoc, hv level hr (endsRun_separator_append level _), readFrom_separator]
      exact hitems

theorem readFrom_key {entries : Entries Json} (hr : AwaitsKey r entries stack) {key : Text}
    (h : escaping = .controls ∨ key.isScalar = true) (rest : Text) :
    readFrom r (writeString escaping key ++ (": " ++ rest)) =
      readFrom (.value (.object entries key :: stack)) rest := by
  have hcolon : scan .between (": " ++ rest) = colon :: scan .between rest := rfl
  rw [readFrom_of_scan (scan_writeString h _)]
  cases hr <;> exact readFrom_of_scan (r := .colon _ key stack) hcolon

theorem readFrom_entries {entries : Entries Json} (hne : entries ≠ [])
    (hkeys : ∀ key ∈ entries.keys, escaping = .controls ∨ key.isScalar = true)
    (h : ∀ e ∈ entries, ReadsBack escaping layout e.2) (level : Nat) {done : Entries Json}
    (hnodup : (Entries.keys (done ++ entries)).Nodup) (hr : AwaitsKey r done stack) {close : Text}
    (hclose : EndsRun close) {rest : Text}
    (hscan : scan .between close = closeObject :: scan .between rest) :
    readFrom r (Text.join (layout.separator level) (entries.map fun e =>
        writeString escaping e.1 ++ (": " ++ writeAt escaping layout level e.2)) ++ close) =
      readFrom (.after (.object (done ++ entries)) stack) rest := by
  induction entries generalizing r done with
  | nil => exact absurd rfl hne
  | cons e entries ih =>
    obtain ⟨key, v⟩ := e
    have hv := h (key, v) List.mem_cons_self
    have hkey := hkeys key List.mem_cons_self
    have hnew : key ∉ Entries.keys done := by
      simp only [Entries.keys, List.map_append, List.map_cons, List.nodup_append] at hnodup
      exact fun hmem => hnodup.2.2 key hmem key List.mem_cons_self rfl
    have hinsert := Entries.insert_of_notMem hnew v
    have hstart := AwaitsValue.value (.object done key :: stack)
    cases entries with
    | nil =>
      rw [List.map_singleton, Text.join, List.intercalate_singleton, List.append_assoc,
        List.append_assoc,
        readFrom_key hr hkey, hv level hstart hclose, readFrom_of_scan hscan, ← hinsert]
      rfl
    | cons e entries =>
      have hnodup' : (Entries.keys (done ++ [(key, v)] ++ e :: entries)).Nodup := by
        simpa using hnodup
      have hentries := ih (List.cons_ne_nil e entries)
        (fun k hk => hkeys k (List.mem_cons_of_mem _ hk))
        (fun d hd => h d (List.mem_cons_of_mem _ hd)) hnodup' (.key (done ++ [(key, v)]) stack)
      rw [List.append_assoc, List.singleton_append, ← hinsert] at hentries
      rw [List.map_cons, List.map_cons, Text.join, List.intercalate_cons_cons, List.append_assoc,
        List.append_assoc, List.append_assoc, List.append_assoc, readFrom_key hr hkey,
        hv level hstart (endsRun_separator_append level _), readFrom_separator]
      exact hentries

theorem endsRun_close {c : CodePoint} (h : isRun c = false) (level : Nat) (rest : Text) :
    EndsRun (layout.lineBreak level ++ c :: rest) :=
  endsRun_lineBreak_append level (endsRun_cons h rest)

theorem isLiteral_null : IsLiteral "null" null := ⟨nofun, by decide, rfl⟩

theorem isLiteral_true : IsLiteral "true" (bool true) := ⟨nofun, by decide, rfl⟩

theorem isLiteral_false : IsLiteral "false" (bool false) := ⟨nofun, by decide, rfl⟩

theorem IsReadable.readsBack {v : Json} (h : IsReadable escaping v) (layout : Layout) :
    ReadsBack escaping layout v := by
  induction h with
  | null => exact fun _ _ _ hr _ hrest => readFrom_literal hr isLiteral_null hrest
  | bool b =>
    cases b with
    | false => exact fun _ _ _ hr _ hrest => readFrom_literal hr isLiteral_false hrest
    | true => exact fun _ _ _ hr _ hrest => readFrom_literal hr isLiteral_true hrest
  | int hn => exact fun _ _ _ hr _ hrest => readFrom_literal hr hn hrest
  | float hx => exact fun _ _ _ hr _ hrest => readFrom_literal hr hx hrest
  | string ht => exact fun _ _ _ hr rest _ => readFrom_string hr ht rest
  | @array items _ ih =>
    intro level r stack hr rest _
    have hopen (t : Text) : scan .between (.scalar '[' :: t) = openArray :: scan .between t := rfl
    have hclose : scan .between (.scalar ']' :: rest) = closeArray :: scan .between rest := rfl
    have hend : scan .between (layout.lineBreak level ++ .scalar ']' :: rest) =
        closeArray :: scan .between rest := by
      rw [scan_spaces fun _ => isSpace_of_mem_lineBreak, hclose]
    have hstart (t : Text) : readFrom r (.scalar '[' :: t) = readFrom (.arrayStart stack) t := by
      rw [readFrom_of_scan (hopen t)]
      cases hr <;> rfl
    cases items with
    | nil => exact (hstart _).trans (readFrom_of_scan hclose)
    | cons v items =>
      have hitems := readFrom_items (List.cons_ne_nil v items) (fun u hu => ih u hu) (level + 1)
        (.arrayStart stack) (endsRun_close rfl level _) hend
      simp only [writeAt, writeItems_eq_map, List.cons_append, List.append_assoc, List.nil_append]
      rw [hstart, readFrom_lineBreak, hitems]
      rfl
  | @object entries hnodup hkeys _ ih =>
    intro level r stack hr rest _
    have hopen (t : Text) : scan .between (.scalar '\x7b' :: t) = openObject :: scan .between t :=
      rfl
    have hclose : scan .between (.scalar '\x7d' :: rest) = closeObject :: scan .between rest := rfl
    have hend : scan .between (layout.lineBreak level ++ .scalar '\x7d' :: rest) =
        closeObject :: scan .between rest := by
      rw [scan_spaces fun _ => isSpace_of_mem_lineBreak, hclose]
    have hstart (t : Text) :
        readFrom r (.scalar '\x7b' :: t) = readFrom (.objectStart stack) t := by
      rw [readFrom_of_scan (hopen t)]
      cases hr <;> rfl
    cases entries with
    | nil => exact (hstart _).trans (readFrom_of_scan hclose)
    | cons e entries =>
      have hentries := readFrom_entries (List.cons_ne_nil e entries) hkeys (fun d hd => ih d hd)
        (level + 1) hnodup (.objectStart stack)
        (endsRun_close rfl level _) hend
      simp only [writeAt, writeEntries_eq_map, List.cons_append, List.append_assoc, List.nil_append]
      rw [hstart, readFrom_lineBreak, hentries]
      rfl

theorem IsReadable.read_writeAt_append {v : Json} (h : IsReadable escaping v) (layout : Layout)
    {spaces : Text} (hspaces : ∀ c ∈ spaces, isSpace c = true) :
    read (writeAt escaping layout 0 v ++ spaces) = .ok v := by
  have hends : EndsRun spaces := by
    intro c hc
    exact isRun_of_isSpace (hspaces c (List.mem_of_mem_head? hc))
  have hback := h.readsBack layout 0 (.value []) hends
  have hend : readFrom (.after v []) spaces = .ok (.after v []) := by
    rw [← List.append_nil spaces, readFrom_spaces hspaces]
    rfl
  simp only [read, ofTokens]
  rw [← readFrom, hback, hend]
  rfl

theorem IsReadable.read_writeAt {v : Json} (h : IsReadable escaping v) (layout : Layout) :
    read (writeAt escaping layout 0 v) = .ok v := by
  rw [← List.append_nil (writeAt escaping layout 0 v)]
  exact h.read_writeAt_append layout (by simp)

/-- Keys that characters are kept in never stand in the way. -/
theorem IsReadable.record {writes : List (Text × Json)}
    (h : ∀ e ∈ writes, IsReadable .controls e.2) : IsReadable .controls (record writes) :=
  .object (Entries.nodup_keys_ofList writes) (fun _ _ => Or.inl rfl)
    fun e he => h e (Entries.mem_of_mem_ofList he)

end Json

end SchemaQuery
