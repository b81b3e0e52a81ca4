import SchemaQuery.Proofs.Json.Ascii
import SchemaQuery.Proofs.Rendering.Line
import SchemaQuery.Proofs.Text.Join

/-!
# One line for each page

What is quoted never holds a line feed, but a title or a status that is a text is shown as it is. So
the lines of a listing are those of its pages, one for each of them in their order, exactly when no
title and no status that is shown holds a line feed.
-/

namespace SchemaQuery

namespace Text

/-- There is no line feed in the text. -/
def IsOneLine (t : Text) : Prop := ∀ c ∈ t, c ≠ .scalar '\n'

instance (t : Text) : Decidable t.IsOneLine := inferInstanceAs (Decidable (∀ c ∈ t, _))

variable {s t : Text}

theorem isOneLine_append : IsOneLine (s ++ t) ↔ s.IsOneLine ∧ t.IsOneLine := List.forall_mem_append

theorem isOneLine_iff : t.IsOneLine ↔ .scalar '\n' ∉ t := by
  constructor
  · intro h hmem
    exact h _ hmem rfl
  · rintro h c hc rfl
    exact h hc

theorem isOneLine_of_isAscii (h : ∀ c ∈ t, c.IsAscii) : t.IsOneLine := by
  rintro c hc rfl
  exact absurd (h _ hc) (by decide)

theorem isOneLine_quotedPoint {mark : Char} (hmark : mark ≠ '\n') (c : CodePoint) :
    (quotedPoint mark c).IsOneLine := by
  have hescaped (lead : Text) (hlead : lead.IsOneLine) (width n : Nat) :
      (lead ++ hexadecimal width n).IsOneLine :=
    isOneLine_append.2 ⟨hlead, isOneLine_of_isAscii (isAscii_hexadecimal width n)⟩
  unfold quotedPoint
  split
  · rename_i hc
    have hfeed : c ≠ .scalar '\n' := by
      rintro rfl
      rcases hc with hc | hc
      · exact hmark (CodePoint.scalar.inj hc).symm
      · cases hc
    exact List.forall_mem_cons.2 ⟨by decide, List.forall_mem_singleton.2 hfeed⟩
  split
  · decide
  rename_i hfeed
  split
  · decide
  split
  · decide
  split
  · exact List.forall_mem_singleton.2 hfeed
  split
  · exact hescaped _ (by decide) _ _
  split
  · exact hescaped _ (by decide) _ _
  · exact hescaped _ (by decide) _ _

theorem isOneLine_quoted (t : Text) : t.quoted.IsOneLine := by
  have hmark : t.quoteMark ≠ '\n' := by
    unfold quoteMark
    split <;> decide
  have hends : CodePoint.scalar t.quoteMark ≠ .scalar '\n' := by
    intro h
    exact hmark (CodePoint.scalar.inj h)
  have hpoints : IsOneLine (t.flatMap (quotedPoint t.quoteMark)) := by
    intro c hc
    obtain ⟨d, -, hc⟩ := List.mem_flatMap.1 hc
    exact isOneLine_quotedPoint hmark d c hc
  rw [quoted, isOneLine_append]
  exact ⟨List.forall_mem_cons.2 ⟨hends, hpoints⟩, List.forall_mem_singleton.2 hends⟩

end Text

namespace Json

open Text (IsOneLine)

theorem quotedItems_eq_map (items : List Json) : quotedItems items = items.map quoted := by
  induction items with
  | nil => rfl
  | cons v items ih => rw [quotedItems, ih, List.map_cons]

theorem quotedEntries_eq_map (entries : Entries Json) :
    quotedEntries entries = entries.map fun e => (e.1.quoted ++ ": " ++ e.2.quoted : Text) := by
  induction entries with
  | nil => rfl
  | cons e entries ih => rw [quotedEntries, ih, List.map_cons]

theorem isOneLine_of_isRun {t : Text} (h : ∀ c ∈ t, JsonToken.isRun c = true) : t.IsOneLine :=
  Text.isOneLine_of_isAscii fun c hc => CodePoint.isAscii_of_isRun (h c hc)

theorem isOneLine_float (x : Binary64) : (x.write shownSpecials).IsOneLine := by
  cases x with
  | nan => decide
  | infinity negative => cases negative <;> decide
  | finite negative m => exact isOneLine_of_isRun (isLiteral_float (.finite negative m)).isRun

/-- Line feeds in the strings of a value are escaped when it is quoted. -/
theorem isOneLine_quoted (v : Json) : v.quoted.IsOneLine := by
  induction v using induction_parts with
  | null =>
    rw [quoted]
    decide
  | bool b =>
    cases b with
    | false =>
      rw [quoted]
      decide
    | true =>
      rw [quoted]
      decide
  | int n =>
    rw [quoted, ofInt_eq]
    exact isOneLine_of_isRun ((isWhole_toDigits _).isRun (by simp))
  | float x =>
    rw [quoted]
    exact isOneLine_float x
  | string t =>
    rw [quoted]
    exact t.isOneLine_quoted
  | array items ih =>
    have hitems : IsOneLine (Text.join ", " (items.map quoted)) := by
      refine Text.forall_mem_join (by decide) ?_
      intro part hpart
      obtain ⟨v, hv, rfl⟩ := List.mem_map.1 hpart
      exact ih v hv
    rw [quoted, quotedItems_eq_map, Text.isOneLine_append, Text.isOneLine_append]
    exact ⟨⟨by decide, hitems⟩, by decide⟩
  | object entries ih =>
    have hentries : IsOneLine
        (Text.join ", " (entries.map fun e => (e.1.quoted ++ ": " ++ e.2.quoted : Text))) := by
      refine Text.forall_mem_join (by decide) ?_
      intro part hpart
      obtain ⟨e, he, rfl⟩ := List.mem_map.1 hpart
      have hcolon : IsOneLine (e.1.quoted ++ ": ") :=
        Text.isOneLine_append.2 ⟨e.1.isOneLine_quoted, by decide⟩
      exact Text.isOneLine_append.2 ⟨hcolon, ih e he⟩
    rw [quoted, quotedEntries_eq_map, Text.isOneLine_append, Text.isOneLine_append]
    exact ⟨⟨by decide, hentries⟩, by decide⟩

theorem isOneLine_shown_iff {v : Json} :
    v.shown.IsOneLine ↔ ∀ t, v = .string t → t.IsOneLine := by
  cases v with
  | string t => simp [shown]
  | null | bool | int | float | array | object => simp [shown, isOneLine_quoted]

end Json

namespace Page

open Text (IsOneLine)

variable {titleProperty : Option Text} {page : Json}

/-- A text that a page has as its title or as its status. -/
def Shows (titleProperty : Option Text) (page : Json) (t : Text) : Prop :=
  shownTitle? titleProperty page = some (.string t) ∨ shownStatus? page = some (.string t)

theorem isOneLine_suffix_iff {name : Option Json} :
    (suffix name).IsOneLine ↔ ∀ t, name = some (.string t) → t.IsOneLine := by
  cases name with
  | none => simp [suffix, IsOneLine]
  | some v =>
    have hopen : IsOneLine " (" := by decide
    have hclose : IsOneLine ")" := by decide
    rw [suffix, Option.elim_some, Text.isOneLine_append, Text.isOneLine_append,
      Json.isOneLine_shown_iff]
    simp [hopen, hclose]

theorem isOneLine_title_iff {title : Option Json} :
    (title.elim untitled Json.shown).IsOneLine ↔
      ∀ t, title = some (.string t) → t.IsOneLine := by
  cases title with
  | none =>
    have huntitled : IsOneLine untitled := by decide
    simp [huntitled]
  | some v =>
    rw [Option.elim_some, Json.isOneLine_shown_iff]
    simp

theorem isOneLine_shownLine_iff : (shownLine titleProperty page).IsOneLine ↔
    ∀ t, Shows titleProperty page t → t.IsOneLine := by
  have hbullet : IsOneLine bullet := by decide
  rw [shownLine, Text.isOneLine_append, Text.isOneLine_append, isOneLine_title_iff,
    isOneLine_suffix_iff]
  simp only [hbullet, true_and, Shows, or_imp, forall_and]

theorem exists_shownLine (titleProperty : Option Text) (page : Json) :
    ∃ rest, shownLine titleProperty page = bullet ++ rest :=
  ⟨_, List.append_assoc ..⟩

/-- The lines of the text are those of the pages. -/
def AreListed (titleProperty : Option Text) (pages : List Json) (t : Text) : Prop :=
  List.Forall₂ (fun page l => line titleProperty page = .ok l ∧ ∃ rest, l = bullet ++ rest) pages
    (t.splitAtMark (.scalar '\n'))

end Page

variable {schema : DatabaseSchema} {pages : List Json} {t : Text}

theorem eq_map_shownLine {lines : List Text}
    (h : List.Forall₂ (fun page l => Page.line schema.titleProperty? page = .ok l) pages lines) :
    lines = pages.map (Page.shownLine schema.titleProperty?) := by
  induction h with
  | nil => rfl
  | cons hline _ ih => rw [List.map_cons, Page.eq_shownLine hline, ih]

/-- Pages that are shown are listed line by line, and have as many lines as there are of them,
exactly when no text that is shown holds a line feed. -/
theorem areListed_iff_isOneLine (hpages : pages ≠ []) (h : renderPages schema pages = .ok t) :
    (Page.AreListed schema.titleProperty? pages t ↔
      ∀ page ∈ pages, ∀ s, Page.Shows schema.titleProperty? page s → s.IsOneLine) ∧
    ((t.splitAtMark (.scalar '\n')).length = pages.length ↔
      ∀ page ∈ pages, ∀ s, Page.Shows schema.titleProperty? page s → s.IsOneLine) := by
  obtain ⟨lines, hlines, rfl⟩ := renderPages_eq_ok.1 h
  have hlength : pages.length = lines.length := hlines.length_eq
  have hne : lines ≠ [] := by
    rintro rfl
    exact hpages (List.eq_nil_of_length_eq_zero hlength)
  have hclean : (∀ l ∈ lines, CodePoint.scalar '\n' ∉ l) ↔
      ∀ page ∈ pages, ∀ s, Page.Shows schema.titleProperty? page s → s.IsOneLine := by
    rw [eq_map_shownLine hlines, List.forall_mem_map]
    simp only [← Text.isOneLine_iff, Page.isOneLine_shownLine_iff]
  have hcount : ((Text.join "\n" lines).splitAtMark (.scalar '\n')).length = pages.length ↔
      ∀ l ∈ lines, CodePoint.scalar '\n' ∉ l := by
    rw [hlength]
    exact Text.length_splitAtMark_join_eq_iff hne
  rw [← hclean]
  refine ⟨⟨?_, ?_⟩, hcount⟩
  · intro hlisted
    exact hcount.1 hlisted.length_eq.symm
  · intro hnone
    have hsplit : (Text.join "\n" lines).splitAtMark (.scalar '\n') = lines :=
      Text.splitAtMark_join_of_notMem hne hnone
    rw [Page.AreListed, hsplit]
    refine hlines.imp ?_
    intro page l hline
    obtain ⟨rest, hrest⟩ := Page.exists_shownLine schema.titleProperty? page
    exact ⟨hline, rest, (Page.eq_shownLine hline).trans hrest⟩

theorem areListed_iff_isOneLine_tea :
    [Json.object (taskPage "Tea"), .object []] ≠ [] ∧
      renderPages namedTasks [.object (taskPage "Tea"), .object []] = .ok "• Tea\n• Untitled" ∧
      Page.AreListed namedTasks.titleProperty? [.object (taskPage "Tea"), .object []]
        "• Tea\n• Untitled" := by
  have hpages : [Json.object (taskPage "Tea"), .object []] ≠ [] := List.cons_ne_nil _ _
  have hshown : renderPages namedTasks [.object (taskPage "Tea"), .object []] =
      .ok "• Tea\n• Untitled" := rfl
  refine ⟨hpages, hshown, (areListed_iff_isOneLine hpages hshown).1.2 ?_⟩
  simp only [List.forall_mem_cons]
  refine ⟨?_, ?_, by simp⟩
  · rintro s (h | h)
    · cases h
      decide
    · cases h
  · rintro s (h | h)
    · cases h
    · cases h

/-- The second half of this title looks like another page. -/
theorem renderPages_brokenTitle :
    renderPages namedTasks [.object (taskPage "Tea\n• Rice")] = .ok "• Tea\n• Rice" ∧
      renderPages namedTasks ([taskPage "Tea", taskPage "Rice"].map .object) = .ok "• Tea\n• Rice" ∧
      Text.splitAtMark (.scalar '\n') "• Tea\n• Rice" =
        [Text.ofString "• Tea", Text.ofString "• Rice"] :=
  ⟨rfl, rfl, rfl⟩

end SchemaQuery
