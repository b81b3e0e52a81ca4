import SchemaQuery.Proofs.DatePhrase.Monotone

/-!
# A day named by its words

The number of a day and the name of its month are a phrase without a year. On the day itself it
denotes that day at midnight, and from then on the same day of the next year.
-/

namespace SchemaQuery

open Calendar

namespace DatePhrase

theorem spells_self (word : List Char) : Spells word (word.map .scalar) := by
  induction word with
  | nil => exact .nil
  | cons letter word ih => exact .cons (by simp [isLetter]) ih

theorem isDay_ofNat {n : Nat} (h : n ≤ 31) : IsDay (Text.ofNat n) n := by
  have hread : ∀ n < 32, day? (Text.ofNat n) = some (n, []) := by decide +kernel
  obtain ⟨digits, hdigits, heq⟩ := exists_of_day? (hread n (Nat.lt_succ_of_le h))
  rw [heq, List.append_nil]
  exact hdigits

def monthName (month : Nat) : String := monthNames.getD (month - 1) ""

theorem isMonth_monthName {month : Nat} (hpos : 1 ≤ month) (hle : month ≤ 12) :
    IsMonth (Text.ofString (monthName month)) month := by
  have hmem : ∀ month < 13, 1 ≤ month → (monthName month, month) ∈ monthNames.zipIdx 1 := by
    decide +kernel
  exact .spelled (hmem month (Nat.lt_succ_of_le hle) hpos) (spells_self _)

theorem monthName_ascii : ∀ month < 13, ∀ c ∈ Text.ofString (monthName month), c.value < 128 := by
  decide +kernel

def parts (d : Date) : Occurrence :=
  ⟨Text.ofNat d.day, [], " ", [], Text.ofString (monthName d.month), [], d.day, d.month⟩

/-- The words that name the day of a date, whatever its year is. -/
def inWords (d : Date) : Text := (parts d).text

def yearless (d : Date) : DatePhrase := ⟨d.day, d.month, false, none⟩

theorem find?_inWords (d : Date) : find? (inWords d) = some (yearless d) := by
  obtain ⟨hpos, hle⟩ := month_le_of_day d.day_pos d.day_le
  have hday : d.day ≤ 31 := Nat.le_trans d.day_le (daysInMonth_le _ _)
  have hblanks : IsBlanks " " := ⟨by decide, by decide⟩
  have hbegins : Begins (inWords d) (parts d) :=
    ⟨rfl, isDay_ofNat hday, .absent, hblanks, .absent, isMonth_monthName hpos hle⟩
  have hfirst : IsFirst (inWords d) 0 (parts d) :=
    ⟨hbegins, fun j hj => absurd hj (Nat.not_lt_zero j)⟩
  have hdot : (parts d).phrase.isDotless = false :=
    Occurrence.isDotless_phrase (monthName_ascii d.month (Nat.lt_succ_of_le hle))
  have hphrase : (parts d).phrase = ⟨d.day, d.month, (parts d).phrase.isDotless, none⟩ := rfl
  rw [hfirst.find?_eq, hphrase, hdot, yearless]

theorem IsDay.isDecimalDigit {digits : Text} {n : Nat} (h : IsDay digits n) :
    ∀ c ∈ digits, c.isDecimalDigit = true := by
  cases h with
  | one ha => simp [CodePoint.isDecimalDigit, ha]
  | two ha hb => simp [CodePoint.isDecimalDigit, ha, hb]

theorem of_mem_inWords {d : Date} {c : CodePoint} (h : c ∈ inWords d) :
    c.isDecimalDigit = true ∨ c.isBlank = true ∨ c ∈ Text.ofString (monthName d.month) := by
  have hday : d.day ≤ 31 := Nat.le_trans d.day_le (daysInMonth_le _ _)
  have hblank : ∀ c ∈ (" " : Text), c.isBlank = true := by decide
  simp only [inWords, Occurrence.text, Occurrence.behindDay, parts, List.nil_append,
    List.append_nil, List.mem_append] at h
  exact h.imp ((isDay_ofNat hday).isDecimalDigit c) (Or.imp_left (hblank c))

theorem placed?_self (d : Date) : placed? d.day d.month d.year = some d := by
  have hle := d.day_le
  have hfits : ¬ (d.day = 29 ∧ d.month = 2 ∧ isLeap d.year = false) := by
    rintro ⟨hday, hmonth, hleap⟩
    rw [hday, hmonth] at hle
    simp [daysInMonth, hleap] at hle
  rw [placed?, if_neg hfits, Date.of?_self]

end DatePhrase

open DatePhrase

/-- The words for a day denote it on that day at its midnight only. -/
theorem resolveDate_inWords_eq_iff {now : Moment} (hlow : 1000 ≤ now.date.year)
    (hhigh : now.date.year ≤ 9998) :
    (resolveDate (some (inWords now.date)) now).value = now.date ↔ now.time = .midnight := by
  have hoccurs : Occurs now.date.day now.date.month :=
    ⟨now.date.year, now.date.day_pos, now.date.day_le⟩
  obtain ⟨d, hd, hleast, -⟩ :=
    resolve?_yearless (p := yearless now.date) rfl rfl hlow hhigh hoccurs
  rw [resolveDate_of_find? (find?_inWords now.date), hd, Option.getD_some]
  have hmem : now.date ∈ (yearless now.date).upcoming now ↔ now.time = .midnight := by
    have hplace := placed?_self now.date
    rw [mem_upcoming_iff, Moment.wall_ofDate, Moment.wall, ← TimeOfDay.microseconds_eq_zero]
    simp only [yearless, hplace, true_and]
    omega
  constructor
  · rintro rfl
    exact hmem.1 hleast.1
  · intro hmidnight
    have hfuture : now.date ≤ d :=
      Moment.date_le_of_wall_le (b := .ofDate d) (mem_upcoming_iff.1 hleast.1).2
    exact Date.le_antisymm (hleast.2 (hmem.2 hmidnight)) hfuture

end SchemaQuery
