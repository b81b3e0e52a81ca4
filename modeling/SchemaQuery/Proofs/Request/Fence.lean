import SchemaQuery.Proofs.Request.Reader

/-!
# Code fences

A code fence stands around a text: three back ticks or more in front, perhaps with the word `json`
behind them, and as many back ticks as one likes at the end, or none where the fence was left open.
Blanks may stand in all places. The fence is not matched when a text is taken out of it; back ticks
and blanks are taken off both ends. The main statement says that this never eats into a text between
braces, so such a text is read in a fence as it is read alone.
-/

namespace SchemaQuery.Request

def ticks (n : Nat) : Text := List.replicate n (.scalar '\x60')

/-- What stands around a text in a code fence. -/
structure Fence where
  before : Text
  opening : Nat
  isTagged : Bool
  lead : Text
  tail : Text
  closing : Nat
  after : Text
  opening_ge : 3 ≤ opening
  before_blank : ∀ c ∈ before, c.isBlank = true
  lead_blank : ∀ c ∈ lead, c.isBlank = true
  tail_blank : ∀ c ∈ tail, c.isBlank = true
  after_blank : ∀ c ∈ after, c.isBlank = true

namespace Fence

variable (fence : Fence)

def tag : Text := if fence.isTagged then "json" else []

def wrap (t : Text) : Text :=
  fence.before ++ (ticks fence.opening ++ (fence.tag ++ (fence.lead ++ (t ++ (fence.tail ++
    (ticks fence.closing ++ fence.after))))))

end Fence

/-! ### What stands between the back ticks -/

theorem eq_of_mem_ticks {c : CodePoint} {n : Nat} (h : c ∈ ticks n) : c = .scalar '\x60' :=
  List.eq_of_mem_replicate h

theorem isBlank_of_mem_ticks {c : CodePoint} {n : Nat} (h : c ∈ ticks n) : c.isBlank = false := by
  rw [eq_of_mem_ticks h]
  rfl

theorem ticks_ne_nil {n : Nat} (h : 0 < n) : ticks n ≠ [] := by
  rw [ticks, Ne, List.replicate_eq_nil_iff]
  exact Nat.ne_of_gt h

theorem startsWith_ticks {n : Nat} (h : 3 ≤ n) (t : Text) :
    (ticks n ++ t).startsWith [.scalar '\x60', .scalar '\x60', .scalar '\x60'] = true := by
  obtain ⟨m, rfl⟩ := Nat.exists_eq_add_of_le h
  rw [ticks, List.replicate_add, List.append_assoc]
  exact Option.isSome_of_eq_some (Text.after?_append _ _)

section Between

variable {before inner after t : Text} {opening closing : Nat}

/-- Back ticks are no blanks, so none of them is stripped off. -/
theorem strippedBlanks_between (hopening : 0 < opening) (hne : inner ≠ [])
    (hend : closing = 0 → ∀ c ∈ inner.getLast?, c.isBlank = false) :
    (ticks opening ++ (inner ++ ticks closing)).strippedBlanks =
      ticks opening ++ (inner ++ ticks closing) := by
  rw [Text.strippedBlanks, Text.trim_eq_self_iff]
  constructor
  · intro c hc
    rw [List.head?_append_of_ne_nil _ (ticks_ne_nil hopening)] at hc
    exact isBlank_of_mem_ticks (List.mem_of_mem_head? hc)
  · intro c hc
    rw [List.getLast?_append_of_ne_nil _ (List.append_ne_nil_of_left_ne_nil hne _)] at hc
    rcases Nat.eq_zero_or_pos closing with rfl | hclosing
    · rw [ticks, List.replicate_zero, List.append_nil] at hc
      exact hend rfl c hc
    · rw [List.getLast?_append_of_ne_nil _ (ticks_ne_nil hclosing)] at hc
      exact isBlank_of_mem_ticks (List.mem_of_mem_getLast? hc)

/-- Blanks and back ticks are taken off what stands between them, and then the word in front. Where
the fence was left open nothing stands behind it, and it may not end in a blank there. -/
theorem unfenced_between (hopening : 3 ≤ opening) (hbefore : ∀ c ∈ before, c.isBlank = true)
    (hafter : ∀ c ∈ after, c.isBlank = true) (hne : inner ≠ [])
    (hinner : inner.trim (· = .scalar '\x60') = inner)
    (hend : closing = 0 → ∀ c ∈ inner.getLast?, c.isBlank = false) :
    unfenced (before ++ ((ticks opening ++ (inner ++ ticks closing)) ++ after)) =
      (Text.without "json" inner).strippedBlanks := by
  have hself := strippedBlanks_between (Nat.lt_of_lt_of_le (by decide) hopening) hne hend
  have hstripped :
      (before ++ ((ticks opening ++ (inner ++ ticks closing)) ++ after)).strippedBlanks =
      ticks opening ++ (inner ++ ticks closing) :=
    Text.trim_surrounded hbefore hself hafter
  have htrim : (ticks opening ++ (inner ++ ticks closing)).trim (· = .scalar '\x60') = inner := by
    refine Text.trim_surrounded (fun c hc => ?_) hinner fun c hc => ?_
    · exact decide_eq_true (eq_of_mem_ticks hc)
    · exact decide_eq_true (eq_of_mem_ticks hc)
  unfold unfenced
  simp only [hstripped, startsWith_ticks hopening, htrim, if_true]

end Between

/-! ### A text between braces -/

/-- The text begins with a brace and ends with one, but for blanks. -/
structure IsBraced (t : Text) : Prop where
  head : t.strippedBlanks.head? = some (.scalar '\x7b')
  last : t.strippedBlanks.getLast? = some (.scalar '\x7d')

theorem IsBraced.unfenced_eq {t : Text} (h : IsBraced t) : unfenced t = t.strippedBlanks := by
  apply unfenced_eq_strippedBlanks
  rw [h.head]
  rintro c ⟨⟩
  decide

namespace Fence

variable (fence : Fence) {t : Text}

def inner (t : Text) : Text := fence.tag ++ (fence.lead ++ (t ++ fence.tail))

theorem wrap_eq (t : Text) : fence.wrap t = fence.before ++ ((ticks fence.opening ++
    (fence.inner t ++ ticks fence.closing)) ++ fence.after) := by
  simp [wrap, inner]

/-- Without closing back ticks the blanks behind the text count as the ones behind the fence. -/
def IsTight : Prop := fence.closing = 0 → fence.tail = []

/-- The blanks at the ends of a text can be taken for the ones of its fence. -/
theorem exists_isTight (t : Text) :
    ∃ tight : Fence, tight.IsTight ∧ tight.wrap t.strippedBlanks = fence.wrap t := by
  obtain ⟨s, u, hs, hu, ht⟩ := Text.exists_trim CodePoint.isBlank t
  have hlead : ∀ c ∈ fence.lead ++ s, c.isBlank = true :=
    List.forall_mem_append.2 ⟨fence.lead_blank, hs⟩
  have htail : ∀ c ∈ u ++ fence.tail, c.isBlank = true :=
    List.forall_mem_append.2 ⟨hu, fence.tail_blank⟩
  have hwrap : fence.wrap t = fence.wrap (s ++ (t.strippedBlanks ++ u)) := congrArg _ ht
  rw [hwrap]
  by_cases hopen : fence.closing = 0
  · have hafter : ∀ c ∈ u ++ fence.tail ++ fence.after, c.isBlank = true :=
      List.forall_mem_append.2 ⟨htail, fence.after_blank⟩
    refine ⟨{ fence with
      lead := fence.lead ++ s
      tail := []
      after := u ++ fence.tail ++ fence.after
      lead_blank := hlead
      tail_blank := List.forall_mem_nil _
      after_blank := hafter }, fun _ => rfl, ?_⟩
    simp [wrap, tag, hopen, ticks]
  · refine ⟨{ fence with
      lead := fence.lead ++ s
      tail := u ++ fence.tail
      lead_blank := hlead
      tail_blank := htail }, fun h => absurd h hopen, ?_⟩
    simp [wrap, tag]

variable (hhead : t.head? = some (.scalar '\x7b')) (hlast : t.getLast? = some (.scalar '\x7d'))

include hhead in
/-- Behind the word comes a blank or the brace. -/
theorem of_mem_head? {c : CodePoint} (hc : c ∈ (fence.lead ++ (t ++ fence.tail)).head?) :
    c.isBlank = true ∨ c = .scalar '\x7b' := by
  rw [List.head?_append, List.head?_append, hhead, Option.some_or, Option.mem_def,
    Option.or_eq_some_iff] at hc
  rcases hc with hc | ⟨-, hc⟩
  · exact .inl (fence.lead_blank c (List.mem_of_mem_head? hc))
  · exact .inr (Option.some.inj hc).symm

include hlast in
/-- In front of the closing back ticks comes a blank or the brace. -/
theorem of_mem_getLast? {c : CodePoint} (hc : c ∈ (fence.inner t).getLast?) :
    c ∈ fence.tail ∨ c = .scalar '\x7d' := by
  rw [inner, List.getLast?_append, List.getLast?_append, List.getLast?_append, hlast,
    Option.or_some, Option.some_or, Option.some_or, Option.mem_def, Option.some.injEq] at hc
  cases htail : fence.tail.getLast? with
  | none =>
    rw [htail] at hc
    exact .inr hc.symm
  | some d =>
    rw [htail] at hc
    exact .inl (hc ▸ List.mem_of_mem_getLast? htail)

include hhead in
/-- The word is taken off if it is there, and nothing else. -/
theorem without_inner : Text.without "json" (fence.inner t) = fence.lead ++ (t ++ fence.tail) := by
  unfold inner tag
  cases fence.isTagged with
  | true => exact congrArg (Option.getD · _) (Text.after?_append _ _)
  | false =>
    have hnone : Text.after? "json" (fence.lead ++ (t ++ fence.tail)) = none := by
      refine Text.after?_cons_eq_none ?_ _
      rintro c hc rfl
      exact absurd (fence.of_mem_head? hhead hc) (by decide)
    exact congrArg (Option.getD · _) hnone

include hhead in
theorem ne_of_mem_head?_inner {c : CodePoint} (hc : c ∈ (fence.inner t).head?) :
    c ≠ .scalar '\x60' := by
  rintro rfl
  unfold inner tag at hc
  cases htag : fence.isTagged with
  | true =>
    rw [htag] at hc
    exact absurd (Option.some.inj hc) (by decide)
  | false =>
    rw [htag] at hc
    exact absurd (fence.of_mem_head? hhead hc) (by decide)

include hhead hlast in
/-- No back tick inside of the fence is taken for a part of it. -/
theorem trim_inner : (fence.inner t).trim (· = .scalar '\x60') = fence.inner t := by
  rw [Text.trim_eq_self_iff]
  constructor
  · intro c hc
    exact decide_eq_false (fence.ne_of_mem_head?_inner hhead hc)
  · rintro c hc
    apply decide_eq_false
    rintro rfl
    rcases fence.of_mem_getLast? hlast hc with htail | hbrace
    · exact absurd (fence.tail_blank _ htail) (by decide)
    · exact absurd hbrace (by decide)

include hhead hlast in
theorem unfenced_wrap_of_isTight (htight : fence.IsTight) : unfenced (fence.wrap t) = t := by
  have hne : fence.inner t ≠ [] := by
    intro hnil
    obtain ⟨rest, rfl⟩ := List.head?_eq_some_iff.1 hhead
    simp [inner] at hnil
  have hend (hopen : fence.closing = 0) (c : CodePoint) (hc : c ∈ (fence.inner t).getLast?) :
      c.isBlank = false := by
    rcases fence.of_mem_getLast? hlast hc with htail | rfl
    · rw [htight hopen] at htail
      cases htail
    · rfl
  have hself : t.trim CodePoint.isBlank = t := by
    rw [Text.trim_eq_self_iff, hhead, hlast]
    constructor
    · rintro c ⟨⟩
      rfl
    · rintro c ⟨⟩
      rfl
  rw [fence.wrap_eq, unfenced_between fence.opening_ge fence.before_blank fence.after_blank hne
    (fence.trim_inner hhead hlast) hend, fence.without_inner hhead]
  exact Text.trim_surrounded fence.lead_blank hself fence.tail_blank

end Fence

/-- A text between braces comes out of its fence whole, whatever stands between the braces. It is
read in the fence as it is read alone. -/
theorem read_wrap (fence : Fence) {t : Text} (h : IsBraced t) :
    unfenced (fence.wrap t) = t.strippedBlanks ∧ read (fence.wrap t) = read t := by
  obtain ⟨tight, htight, hwrap⟩ := fence.exists_isTight t
  have hunfenced : unfenced (fence.wrap t) = t.strippedBlanks := by
    rw [← hwrap, tight.unfenced_wrap_of_isTight h.head h.last htight]
  refine ⟨hunfenced, ?_⟩
  unfold read
  rw [hunfenced, h.unfenced_eq]

theorem isBlank_lineFeed : ∀ c ∈ ("\n" : Text), c.isBlank = true := by decide

/-- A fence on the line of its text that is never closed. -/
def openFence : Fence where
  before := "\n"
  opening := 4
  isTagged := true
  lead := []
  tail := "\n"
  closing := 0
  after := []
  opening_ge := Nat.le_succ 3
  before_blank := isBlank_lineFeed
  lead_blank := List.forall_mem_nil _
  tail_blank := isBlank_lineFeed
  after_blank := List.forall_mem_nil _

/-- A request with back ticks of its own. -/
def ticked : Text := " \x7b\"database\": \"\x60\x60\x60T\x60\x60\x60\"\x7d"

theorem read_wrap_ticked : IsBraced ticked ∧
    unfenced (openFence.wrap ticked) = ticked.strippedBlanks ∧
    read (openFence.wrap ticked) = .ok ⟨"\x60\x60\x60T\x60\x60\x60", [], none⟩ := by
  have hbraced : IsBraced ticked := ⟨by decide +kernel, by decide +kernel⟩
  have hread : read ticked = .ok ⟨"\x60\x60\x60T\x60\x60\x60", [], none⟩ := by rfl
  obtain ⟨hunfenced, hsame⟩ := read_wrap openFence hbraced
  exact ⟨hbraced, hunfenced, hsame.trans hread⟩

end SchemaQuery.Request
