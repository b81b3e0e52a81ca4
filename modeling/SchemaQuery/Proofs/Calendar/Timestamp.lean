import SchemaQuery.Calendar.Timestamp
import SchemaQuery.Proofs.Calendar.Order
import SchemaQuery.Proofs.Text.Numeral

/-!
# Timestamps read back

The stored form of a moment has no place for seconds of the offset. A moment whose offset is a whole
number of minutes, or that has none, is read back as it was, to the microsecond. Whatever is read is
such a moment, so what has been read once can be stored and read again without loss.
-/

namespace SchemaQuery

namespace Text

@[simp] theorem without_append (lead t : Text) : without lead (lead ++ t) = t := by
  simp [without, after?_append]

end Text

/-- The offset, if there is one, has a stored form of its own. -/
def Moment.IsStorable (m : Moment) : Prop := ∀ o ∈ m.offset, 60000000 ∣ o.microseconds

namespace UtcOffset

theorem of?_eq_some_iff {n : Int} {o : UtcOffset} : of? n = some o ↔ o.microseconds = n := by
  constructor
  · intro h
    unfold of? at h
    split at h
    · cases h
      rfl
    · cases h
  · rintro rfl
    simp [of?, o.gt, o.lt]

end UtcOffset

namespace Timestamp

/-- The text is no decimal and begins no row of decimals. -/
def EndsTime (t : Text) : Prop :=
  ∀ c ∈ t.head?, c ≠ .scalar '.' ∧ c ≠ .scalar ',' ∧ c.digit? = none

theorem time?_write (time : TimeOfDay) {rest : Text} (hrest : EndsTime rest) :
    time? (time.write ++ rest) = some (time, rest) := by
  have hhour : time.hour < 10 ^ 2 := Nat.lt_trans time.hour_lt (by decide)
  have hminute : time.minute < 10 ^ 2 := Nat.lt_trans time.minute_lt (by decide)
  have hsecond : time.second < 10 ^ 2 := Nat.lt_trans time.second_lt (by decide)
  have hmicro : time.microsecond < 10 ^ 6 := time.microsecond_lt
  have hcolon : (":" : Text) = [.scalar ':'] := rfl
  have hafter (t : Text) : Text.after? [.scalar ':'] (.scalar ':' :: t) = some t := by
    simp [Text.after?]
  by_cases hzero : time.microsecond = 0
  · have hself := TimeOfDay.of?_self time
    rw [hzero] at hself
    simp only [time?, TimeOfDay.write, TimeOfDay.writeFraction, hzero, if_true, List.append_assoc,
      List.append_nil, Text.digits?_padded, hhour, hminute, hsecond, Nat.zero_lt_two, hcolon,
      hafter, Option.bind_eq_bind, Option.bind_some, List.cons_append, List.nil_append]
    cases rest with
    | nil => simp [hself]
    | cons c rest =>
      obtain ⟨hpoint, hcomma, -⟩ := hrest c rfl
      simp [hpoint, hcomma, hself]
  · have hspan := Text.spanDigits_padded 6 time.microsecond fun c hc => (hrest c hc).2.2
    have hnumber := Text.number_paddedDigits 6 time.microsecond
    have hlen := Text.length_digitValues_padded (by decide) hmicro
    have hself := TimeOfDay.of?_self time
    simp only [time?, TimeOfDay.write, TimeOfDay.writeFraction, hzero, if_false, List.append_assoc,
      Text.digits?_padded, hhour, hminute, hsecond, Nat.zero_lt_two, hcolon,
      hafter, Option.bind_eq_bind, Option.bind_some, List.cons_append, List.nil_append, hspan]
    generalize Text.digitValues (Text.paddedDigits 6 time.microsecond) = decimals at hnumber hlen ⊢
    have htake : decimals.take 6 = decimals := List.take_of_length_le (Nat.le_of_eq hlen)
    cases decimals with
    | nil => cases hlen
    | cons d decimals => simp [htake, hlen, hnumber, hself]

theorem endsTime_writeOffset (offset : Option UtcOffset) :
    EndsTime ((offset.map writeOffset).getD []) := by
  have hends {sign : Char} (hsign : sign ∈ ['Z', '-', '+']) (t : Text) :
      EndsTime (.scalar sign :: t) := by
    intro c hc
    obtain rfl : .scalar sign = c := by simpa using hc
    simp only [List.mem_cons, List.not_mem_nil, or_false] at hsign
    rcases hsign with rfl | rfl | rfl <;> decide
  cases offset with
  | none => simp [EndsTime]
  | some o =>
    simp only [Option.map_some, Option.getD_some, writeOffset]
    by_cases hzero : roundedSeconds o = 0
    · rw [if_pos hzero]
      exact hends (by decide) []
    · rw [if_neg hzero]
      apply hends
      by_cases hneg : o.microseconds < 0 <;> simp [offsetSign, hneg]

theorem distance?_write {hour minute : Nat} (hhour : hour < 100) (hminute : minute < 60)
    (negative : Bool) {o : UtcOffset} (ho : o.microseconds =
      if negative then -((hour * 60 + minute : Nat) * 60000000 : Int)
      else (hour * 60 + minute : Nat) * 60000000) :
    distance? negative (Text.padded 2 hour ++ ":" ++ Text.padded 2 minute) = some o := by
  have hminute' : minute < 10 ^ 2 := Nat.lt_trans hminute (by decide)
  have hread := Text.digits?_padded Nat.zero_lt_two hminute' []
  rw [List.append_nil] at hread
  simp only [distance?, List.append_assoc, Text.digits?_padded Nat.zero_lt_two hhour,
    Text.without_append, hread, Option.bind_eq_bind, Option.bind_some, true_and, hminute, if_true]
  exact UtcOffset.of?_eq_some_iff.2 ho

theorem offset?_write (offset : Option UtcOffset)
    (h : ∀ o ∈ offset, 60000000 ∣ o.microseconds) :
    offset? ((offset.map writeOffset).getD []) = some offset := by
  cases offset with
  | none => rfl
  | some o =>
    obtain ⟨n, hn⟩ := h o rfl
    have hgt := o.gt
    have hlt := o.lt
    have hseconds : roundedSeconds o = n.natAbs * 60 := by
      unfold roundedSeconds
      omega
    have hminutes : n.natAbs * 60 / 60 = n.natAbs := by omega
    simp only [Option.map_some, Option.getD_some, writeOffset, hseconds, hminutes]
    by_cases hzero : n = 0
    · have hutc : o = .utc := by
        obtain ⟨microseconds, _, _⟩ := o
        simpa [UtcOffset.utc, hzero] using hn
      subst hzero hutc
      rfl
    · have hne : n.natAbs * 60 ≠ 0 := by omega
      rw [if_neg hne]
      by_cases hneg : o.microseconds < 0
      · have hread : distance? true (Text.padded 2 (n.natAbs / 60) ++ ":" ++
            Text.padded 2 (n.natAbs % 60)) = some o :=
          distance?_write (by omega) (by omega) true (by simp only [if_true]; omega)
        simp only [offsetSign, hneg, if_true, offset?, hread, Option.map_some]
      · have hread : distance? false (Text.padded 2 (n.natAbs / 60) ++ ":" ++
            Text.padded 2 (n.natAbs % 60)) = some o :=
          distance?_write (by omega) (by omega) false
            (by simp only [Bool.false_eq_true, if_false]; omega)
        simp only [offsetSign, hneg, if_false, offset?, hread, Option.map_some]

theorem write_eq (m : Moment) :
    write m = m.date.write ++ "T" ++ m.time.write ++ (m.offset.map writeOffset).getD [] := by
  cases h : m.offset <;> simp [write, h]

theorem parts?_write {m : Moment} (h : m.IsStorable) :
    parts? (write m) = some ((m.date.year, m.date.month, m.date.day), m.time, m.offset) := by
  have hreal : ¬ (m.date.day < 1 ∨
      Calendar.daysInMonth m.date.year m.date.month < m.date.day) := by
    have := m.date.day_pos
    have := m.date.day_le
    omega
  have hmark (t : Text) : ("T" : Text) ++ t = .scalar 'T' :: t := rfl
  simp only [parts?, write_eq, Date.write, List.append_assoc,
    Text.digits?_padded (Nat.zero_lt_succ 3) m.date.year_lt,
    Text.digits?_padded Nat.zero_lt_two m.date.month_lt,
    Text.digits?_padded Nat.zero_lt_two m.date.day_lt, Text.after?_append, Option.bind_eq_bind,
    Option.bind_some, if_neg hreal, hmark, List.cons_append]
  rw [if_pos (by decide), time?_write _ (endsTime_writeOffset _)]
  simp [offset?_write m.offset h]

theorem read_write {m : Moment} (h : m.IsStorable) : read (write m) = .ok m := by
  simp [read, parts?_write h, Date.of?_self]

/-! ### What is read can be stored -/

theorem isStorable_utc (date : Date) (time : TimeOfDay) :
    Moment.IsStorable ⟨date, time, some .utc⟩ := by
  rintro o ho
  obtain rfl : UtcOffset.utc = o := by simpa using ho
  exact Int.dvd_zero _

theorem isStorable_of_ofEpoch {n : Int} {m : Moment} (h : ofEpoch n = .ok m) : m.IsStorable := by
  unfold ofEpoch at h
  simp only at h
  split at h
  · cases h
    exact isStorable_utc _ _
  · cases h

theorem isStorable_of_ofBinary64 {x : Binary64} {m : Moment} (h : ofBinary64 x = .ok m) :
    m.IsStorable := by
  unfold ofBinary64 at h
  split at h
  · exact isStorable_of_ofEpoch h
  · cases h

theorem isStorable_of_ofNumeral? {t : Text} {m : Moment} (h : ofNumeral? t = some (.ok m)) :
    m.IsStorable := by
  unfold ofNumeral? at h
  simp only at h
  split at h
  · cases h
  · rw [Option.some.injEq] at h
    exact isStorable_of_ofEpoch h
  · split at h
    · obtain ⟨x, -, hx⟩ := Option.map_eq_some_iff.1 h
      unfold ofDecimal at hx
      split at hx
      · exact isStorable_of_ofEpoch hx
      · cases hx
    · cases h

theorem dvd_of_distance? {negative : Bool} {t : Text} {o : UtcOffset}
    (h : distance? negative t = some o) : 60000000 ∣ o.microseconds := by
  simp only [distance?, Option.bind_eq_bind, Option.bind_eq_some_iff] at h
  obtain ⟨⟨hour, t⟩, -, ⟨minute, t⟩, -, h⟩ := h
  split at h
  · rw [UtcOffset.of?_eq_some_iff.1 h]
    cases negative <;> simp
  · cases h

theorem dvd_of_offset? {t : Text} {offset : Option UtcOffset} (h : offset? t = some offset) :
    ∀ o ∈ offset, 60000000 ∣ o.microseconds := by
  have hdistance {negative : Bool} {t : Text} (h : (distance? negative t).map some = some offset) :
      ∀ o ∈ offset, 60000000 ∣ o.microseconds := by
    obtain ⟨o, ho, rfl⟩ := Option.map_eq_some_iff.1 h
    simpa using dvd_of_distance? ho
  unfold offset? at h
  split at h
  · cases h
    simp
  · cases h
    simp [UtcOffset.utc]
  · cases h
    simp [UtcOffset.utc]
  · exact hdistance h
  · exact hdistance h
  · exact hdistance h
  · cases h

theorem dvd_of_parts? {t : Text} {date : Nat × Nat × Nat} {time : TimeOfDay}
    {offset : Option UtcOffset} (h : parts? t = some (date, time, offset)) :
    ∀ o ∈ offset, 60000000 ∣ o.microseconds := by
  simp only [parts?, Option.bind_eq_bind, Option.bind_eq_some_iff] at h
  obtain ⟨⟨year, t⟩, -, t, -, ⟨month, t⟩, -, t, -, ⟨day, t⟩, -, h⟩ := h
  split at h
  · cases h
  split at h
  · cases h
    simp
  split at h
  · simp only [Option.bind_eq_some_iff] at h
    obtain ⟨⟨time', t⟩, -, offset', hoffset, h⟩ := h
    cases h
    exact dvd_of_offset? hoffset
  · cases h

theorem isStorable_of_read {t : Text} {m : Moment} (h : read t = .ok m) : m.IsStorable := by
  unfold read at h
  split at h
  · rename_i hparts
    split at h
    · cases h
      exact dvd_of_parts? hparts
    · cases h
  · cases hnumeral : ofNumeral? t with
    | none => simp [hnumeral] at h
    | some outcome =>
      rw [hnumeral, Option.getD_some] at h
      rw [h] at hnumeral
      exact isStorable_of_ofNumeral? hnumeral

end Timestamp

end SchemaQuery
