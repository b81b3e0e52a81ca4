import SchemaQuery.Binary64.Reader
import SchemaQuery.Client
import SchemaQuery.Proofs.Text.Trim
import SchemaQuery.Proofs.Text.Utf8

/-!
# Calls of the service

Below a base address of the web, the address of a call is the base without its last slashes and the
path behind it, which is an address of the web again. A call makes one request to the address of its
database, and none only if the id of the database has no bytes.
-/

namespace SchemaQuery

namespace Http

/-- An address of the web: its scheme is `http` or `https`, in small or capital letters. -/
def IsWeb (t : Text) : Prop :=
  ∃ scheme rest : Text, t = scheme ++ .scalar ':' :: rest ∧
    (scheme.isWord "http" = true ∨ scheme.isWord "https" = true)

theorem eq_h_or_H_of_toLower {c : Char} (h : c.toLower = 'h') : c = 'h' ∨ c = 'H' := by
  unfold Char.toLower at h
  split at h
  · rename_i hcapital
    have hle : c.toNat ≤ 90 := hcapital.2
    have hval : (c.val + 32).toNat = 104 := congrArg (fun d : Char => d.val.toNat) h
    have hmod : (c.toNat + 32) % 2 ^ 32 = 104 := hval
    rw [Nat.mod_eq_of_lt (by omega)] at hmod
    have hnat : c.toNat = 'H'.toNat := Nat.add_right_cancel (m := 32) hmod
    exact .inr (Char.toNat_inj.1 hnat)
  · exact .inl h

theorem IsWeb.exists_cons {t : Text} (h : IsWeb t) :
    ∃ c rest, t = .scalar c :: rest ∧ (c = 'h' ∨ c = 'H') := by
  obtain ⟨scheme, rest, rfl, hscheme⟩ := h
  have hfirst (word : String) (letters : Text) (hword : Text.ofString word = .scalar 'h' :: letters)
      (h : scheme.isWord word = true) : ∃ c rest, scheme = .scalar c :: rest ∧ c.toLower = 'h' := by
    rw [Text.isWord, decide_eq_true_iff, hword] at h
    obtain ⟨c, rest, rfl, hc, -⟩ := List.map_eq_cons_iff.1 h
    cases c with
    | scalar c => exact ⟨c, rest, rfl, CodePoint.scalar.inj hc⟩
    | surrogate unit => cases hc
  obtain ⟨c, letters, rfl, hc⟩ := hscheme.elim (hfirst "http" _ rfl) (hfirst "https" _ rfl)
  exact ⟨c, letters ++ .scalar ':' :: rest, rfl, eq_h_or_H_of_toLower hc⟩

/-- Nothing stands around an address that begins like a scheme and has no blank at its end. -/
theorem unwrapped_eq_self {c : Char} {d : CodePoint} (hc : c = 'h' ∨ c = 'H')
    (hd : d.isBlank = false) (t : Text) :
    unwrapped (.scalar c :: (t ++ [d])) = .scalar c :: (t ++ [d]) := by
  have hblank : CodePoint.isBlank (.scalar c) = false := by rcases hc with rfl | rfl <;> rfl
  have hbracket : CodePoint.scalar c ≠ .scalar '<' := by rcases hc with rfl | rfl <;> decide
  have hletter : CodePoint.scalar 'U' ≠ .scalar c := by rcases hc with rfl | rfl <;> decide
  have hstrip := Text.trim_eq_self hblank hd t
  unfold unwrapped Text.strippedBlanks
  simp only [hstrip, List.head?_cons, Option.some.injEq, hbracket, false_and, if_false]
  have hafter : Text.after? "URL:" (.scalar c :: (t ++ [d])) = none := if_neg hletter
  rw [hafter]

/-- The last number sign is looked for behind whatever has none. -/
theorem withoutFragment_append {s : Text} (h : .scalar '#' ∉ s) (t : Text) :
    withoutFragment (s ++ t) = s ++ withoutFragment t := by
  unfold withoutFragment
  by_cases ht : .scalar '#' ∈ t
  · have hst : .scalar '#' ∈ s ++ t := List.mem_append_right s ht
    have hfound : t.reverse.dropWhile (· ≠ .scalar '#') ≠ [] := by
      intro hnone
      have hpassed := List.dropWhile_eq_nil_iff.1 hnone _ (List.mem_reverse.2 ht)
      simp at hpassed
    obtain ⟨sign, before, hbefore⟩ := List.exists_cons_of_ne_nil hfound
    rw [if_pos (List.contains_iff_mem.2 hst), if_pos (List.contains_iff_mem.2 ht),
      List.reverse_append, List.dropWhile_append, hbefore]
    simp
  · have hst : .scalar '#' ∉ s ++ t := by simp [h, ht]
    rw [if_neg (mt List.contains_iff_mem.1 hst), if_neg (mt List.contains_iff_mem.1 ht)]

theorem hasScheme_append {scheme : Text} (hne : scheme ≠ [])
    (h : ∀ c ∈ scheme, c ≠ .scalar '/' ∧ c ≠ .scalar ':' ∧ c ≠ .scalar '#') (rest : Text) :
    hasScheme (scheme ++ .scalar ':' :: rest) = true := by
  have hsign : .scalar '#' ∉ scheme := fun hmem => (h _ hmem).2.2 rfl
  have hcolon : withoutFragment (.scalar ':' :: rest) = .scalar ':' :: withoutFragment rest :=
    withoutFragment_append (s := [.scalar ':']) (by decide) rest
  have hmarks : ∀ c ∈ scheme,
      (!(decide (c = .scalar '/') || decide (c = .scalar ':'))) = true := by
    intro c hc
    obtain ⟨hslash, hcolon, -⟩ := h c hc
    simp [hslash, hcolon]
  unfold hasScheme
  rw [withoutFragment_append hsign, hcolon]
  simp only [List.takeWhile_append_of_pos hmarks, List.dropWhile_append_of_pos hmarks]
  simp [hne]

/-- A word that has no mark in it has none in any other case of its letters. -/
theorem ne_of_isWord {word : String} {scheme : Text} (h : scheme.isWord word = true) {mark : Char}
    (hlower : mark.toLower = mark) (hmark : .scalar mark ∉ Text.ofString word) :
    ∀ c ∈ scheme, c ≠ .scalar mark := by
  rw [Text.isWord, decide_eq_true_iff] at h
  rintro _ hc rfl
  apply hmark
  rw [← h]
  refine List.mem_map.2 ⟨_, hc, ?_⟩
  simp [hlower]

theorem IsWeb.hasScheme {t : Text} (h : IsWeb t) : hasScheme t = true := by
  obtain ⟨scheme, rest, rfl, hscheme⟩ := h
  have hword {word : String} (hnil : Text.ofString word ≠ [])
      (hletters : .scalar '/' ∉ Text.ofString word ∧ .scalar ':' ∉ Text.ofString word ∧
        .scalar '#' ∉ Text.ofString word)
      (h : scheme.isWord word = true) : Http.hasScheme (scheme ++ .scalar ':' :: rest) = true := by
    apply hasScheme_append
    · rintro rfl
      exact hnil (of_decide_eq_true h).symm
    · obtain ⟨hslash, hcolon, hsign⟩ := hletters
      intro c hc
      exact ⟨ne_of_isWord h rfl hslash c hc, ne_of_isWord h rfl hcolon c hc,
        ne_of_isWord h rfl hsign c hc⟩
  exact hscheme.elim (hword (by decide) (by decide)) (hword (by decide) (by decide))

theorem isBlank_hexDigit {n : Nat} (h : n < 16) :
    CodePoint.isBlank (.scalar (hexDigit n)) = false := by
  have hall : ∀ digit : Fin 16, CodePoint.isBlank (.scalar (hexDigit digit)) = false := by decide
  exact hall ⟨n, h⟩

/-- A byte that stands for itself is no blank. -/
theorem isBlank_of_isUnreserved {b : UInt8} (h : isUnreserved b = true) :
    CodePoint.isBlank (.scalar (Char.ofNat b.toNat)) = false := by
  have hall : ∀ byte : Fin 128, isUnreserved (UInt8.ofNat byte) = true →
      CodePoint.isBlank (.scalar (Char.ofNat byte)) = false := by decide
  have hascii : b.toNat < 128 := by
    have hlow : b < 0x80 := of_decide_eq_true (Bool.and_eq_true_iff.1 h).1
    exact UInt8.lt_iff_toNat_lt.1 hlow
  refine hall ⟨b.toNat, hascii⟩ ?_
  rwa [UInt8.ofNat_toNat]

theorem isBlank_of_mem_escapeByte {b : UInt8} {c : CodePoint} (h : c ∈ escapeByte b) :
    c.isBlank = false := by
  unfold escapeByte at h
  split at h
  · rename_i hself
    obtain rfl := List.mem_singleton.1 h
    exact isBlank_of_isUnreserved hself
  · have hhigh := b.toNat_lt
    simp only [List.mem_cons, List.not_mem_nil, or_false] at h
    rcases h with rfl | rfl | rfl
    · rfl
    · exact isBlank_hexDigit (by omega)
    · exact isBlank_hexDigit (by omega)

theorem isBlank_of_mem_segment? {t segment : Text} {c : CodePoint} (h : segment? t = some segment)
    (hc : c ∈ segment) : c.isBlank = false := by
  obtain ⟨bytes, -, rfl⟩ := Option.map_eq_some_iff.1 h
  obtain ⟨b, -, hb⟩ := List.mem_flatMap.1 hc
  exact isBlank_of_mem_escapeByte hb

theorem segment?_isSome {t : Text} : (segment? t).isSome = t.isScalar := by
  rw [segment?, Option.isSome_map, Text.utf8?_isSome]

theorem isScalar_of_segment? {t segment : Text} (h : segment? t = some segment) :
    t.isScalar = true := by
  rw [← segment?_isSome, h]
  rfl

theorem exists_segment? {t : Text} (h : t.isScalar = true) :
    ∃ segment, segment? t = some segment := by
  rw [← segment?_isSome] at h
  exact Option.isSome_iff_exists.1 h

end Http

namespace ApiConfig

variable {c : ApiConfig} {server : Http.Server} {id : Text} {body answer : Json}

def queryUrl (base segment : Text) : Text :=
  base.trimRight (· = .scalar '/') ++ ("/databases/" ++ segment ++ "/query")

theorem ite_isAbsent (entries : Entries Json) :
    (if (Json.object entries).isAbsent then Json.object [] else .object entries) =
      .object entries := by
  cases entries <;> rfl

def requestTo (c : ApiConfig) (method : Http.Method) (path : Text) (body : Option Json) :
    Http.Request where
  method := method
  url := c.apiBase.trimRight (· = .scalar '/') ++ path
  headers := c.headers
  body := body.map (Json.write .nonAscii)
  timeout := c.timeout

def queryRequest (c : ApiConfig) (segment : Text) (body : Json) : Http.Request where
  method := .post
  url := queryUrl c.apiBase segment
  headers := c.headers
  body := some (Json.write .nonAscii body)
  timeout := c.timeout

def retrieveRequest (c : ApiConfig) (segment : Text) : Http.Request :=
  c.requestTo .get ("/databases/" ++ segment) none

theorem isWeb_below {base : Text} (h : Http.IsWeb base) (path : Text) :
    Http.IsWeb (base.trimRight (· = .scalar '/') ++ path) := by
  obtain ⟨scheme, rest, rfl, hscheme⟩ := h
  refine ⟨scheme, rest.trimRight (· = .scalar '/') ++ path, ?_, hscheme⟩
  rw [Text.trimRight_append_cons (by decide), List.append_assoc, List.cons_append]

theorem unwrapped_below {base path : Text} {d : CodePoint} (h : Http.IsWeb base)
    (hlast : path.getLast? = some d) (hd : d.isBlank = false) :
    Http.unwrapped (base.trimRight (· = .scalar '/') ++ path) =
      base.trimRight (· = .scalar '/') ++ path := by
  obtain ⟨front, rfl⟩ := List.getLast?_eq_some_iff.1 hlast
  obtain ⟨first, rest, rfl, hfirst⟩ := h.exists_cons
  have hslash : (CodePoint.scalar first = .scalar '/') = False := by
    rcases hfirst with rfl | rfl <;> simp
  rw [Text.trimRight_cons (by simp [hslash]), List.cons_append, ← List.append_assoc]
  exact Http.unwrapped_eq_self hfirst hd _

/-- At an address of the web every call is made, and made once. -/
theorem call_of_isWeb {path : Text} {d : CodePoint} (hbase : Http.IsWeb c.apiBase)
    (hlast : path.getLast? = some d) (hd : d.isBlank = false) (server : Http.Server)
    (method : Http.Method) (body : Option Json) :
    c.call server method path body =
      ⟨some (c.requestTo method path body), resultOf (server (c.requestTo method path body))⟩ := by
  have hscheme := (isWeb_below hbase path).hasScheme
  unfold call
  simp only [unwrapped_below hbase hlast hd, if_pos hscheme]
  rfl

theorem query_of_isWeb {segment : Text} (hbase : Http.IsWeb c.apiBase)
    (hsegment : Http.segment? id = some segment) (body : Json) :
    c.query server id body =
      ⟨some (c.queryRequest segment (if body.isAbsent then .object [] else body)),
        resultOf (server
          (c.queryRequest segment (if body.isAbsent then .object [] else body)))⟩ := by
  have hlast : ("/databases/" ++ segment ++ "/query").getLast? = some (.scalar 'y') := by
    rw [List.getLast?_append]
    rfl
  unfold query databasePath?
  rw [hsegment]
  exact call_of_isWeb hbase hlast rfl server .post _

/-- At an address of the web, the database of an id with bytes is asked, and asked once. -/
theorem query_of_segment? {segment : Text} (hbase : Http.IsWeb c.apiBase)
    (hsegment : Http.segment? id = some segment) (entries : Entries Json) :
    c.query server id (.object entries) =
      ⟨some (c.queryRequest segment (.object entries)),
        resultOf (server (c.queryRequest segment (.object entries)))⟩ := by
  rw [query_of_isWeb hbase hsegment, ite_isAbsent]

theorem retrieve_of_isWeb {segment : Text} (hbase : Http.IsWeb c.apiBase)
    (hsegment : Http.segment? id = some segment) :
    c.retrieve server id =
      ⟨some (c.retrieveRequest segment), resultOf (server (c.retrieveRequest segment))⟩ := by
  unfold retrieve databasePath?
  rw [hsegment]
  have hlast : ("/databases/" ++ segment).getLast? =
      segment.getLast?.or (some (.scalar '/')) := List.getLast?_append
  cases hend : segment.getLast? with
  | none =>
    rw [hend, Option.none_or] at hlast
    exact call_of_isWeb hbase hlast rfl server .get none
  | some d =>
    rw [hend, Option.some_or] at hlast
    have hd := Http.isBlank_of_mem_segment? hsegment (List.mem_of_getLast? hend)
    exact call_of_isWeb hbase hlast hd server .get none

theorem query_of_segment?_eq_none (hsegment : Http.segment? id = none) :
    c.query server id body = ⟨none, .error .badId⟩ := by
  unfold query databasePath?
  rw [hsegment]
  rfl

theorem query_eq_ok {entries : Entries Json} (hbase : Http.IsWeb c.apiBase)
    (h : (c.query server id (.object entries)).result = .ok answer) :
    ∃ segment, Http.segment? id = some segment ∧
      (c.query server id (.object entries)).request =
        some (c.queryRequest segment (.object entries)) := by
  cases hsegment : Http.segment? id with
  | none =>
    rw [query_of_segment?_eq_none hsegment] at h
    cases h
  | some segment =>
    rw [query_of_segment? hbase hsegment]
    exact ⟨segment, rfl, rfl⟩

end ApiConfig

end SchemaQuery
