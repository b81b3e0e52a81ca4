import SchemaQuery.Proofs.Calendar.Successor
import SchemaQuery.Proofs.Calendar.Written
import SchemaQuery.Proofs.DatePhrase.NextOccurrence
import SchemaQuery.Proofs.Filter.Leaf

/-!
# Upcoming weeks

Mondays have the ordinals 1, 8, 15 and so on, and an upcoming week goes from one of them to the
next. So upcoming weeks never overlap in part: seen from different days they are one week, or the
later day has the later week. Seven days make the difference between a week and the one that begins
where it stops. What a filter sends of a week are texts of its two days, which stand in the order of
the days.
-/

namespace SchemaQuery

namespace Week

open Date (IsLater nextMondayOrdinal)

/-- The week that begins on the first Monday from a day on. -/
structure IsUpcoming (d : Date) (w : Week) : Prop where
  start : ∃ n ≤ 6, IsLater n d w.start
  monday : w.start.weekday = 0
  stop : IsLater 7 w.start w.stop

variable {d e : Date} {w next : Week} {now later : Moment}

theorem isUpcoming_iff : IsUpcoming d w ↔
    w.start.ordinal = d.nextMondayOrdinal ∧ w.stop.ordinal = d.nextMondayOrdinal + 7 := by
  constructor
  · rintro ⟨⟨n, hn, hstart⟩, hmonday, hstop⟩
    have hstart := Date.isLater_iff.1 hstart
    have hstop := Date.isLater_iff.1 hstop
    unfold Date.weekday at hmonday
    unfold nextMondayOrdinal Date.weekday
    omega
  · rintro ⟨hstart, hstop⟩
    unfold nextMondayOrdinal Date.weekday at hstart hstop
    refine ⟨⟨(7 - d.weekday) % 7, by omega, Date.isLater_iff.2 hstart⟩, ?_, ?_⟩
    · unfold Date.weekday
      omega
    · exact Date.isLater_iff.2 (by omega)

theorem resolve_upcoming_eq_some_iff :
    (resolve .upcoming now).value = some w ↔ IsUpcoming now.date w := by
  change upcoming? now = some w ↔ _
  rw [isUpcoming_iff, upcoming?, Option.bind_eq_some_iff]
  constructor
  · rintro ⟨monday, hmonday, hweek⟩
    obtain ⟨stop, hstop, rfl⟩ := Option.map_eq_some_iff.1 hweek
    have hmonday := Date.nextMonday?_eq_some_iff.1 hmonday
    exact ⟨hmonday, hmonday ▸ Date.addDays?_eq_some_iff.1 hstop⟩
  · rintro ⟨hstart, hstop⟩
    have hweek : w.start.addDays? 7 = some w.stop :=
      Date.addDays?_eq_some_iff.2 (by rw [hstart, hstop])
    exact ⟨w.start, Date.nextMonday?_eq_some_iff.2 hstart, by rw [from?, hweek]; rfl⟩

theorem IsUpcoming.nextMonday?_start (h : IsUpcoming d w) :
    w.start.nextMonday? = some w.start := by
  rw [Date.nextMonday?_eq_some_iff, nextMondayOrdinal, h.monday]
  rfl

/-- A later day has the same week, or one that begins when the week is over. -/
theorem IsUpcoming.eq_or_stop_le (h : IsUpcoming d w) (hnext : IsUpcoming e next) (hle : d ≤ e) :
    w = next ∨ d < e ∧ w.stop ≤ next.start := by
  obtain ⟨hstart, hstop⟩ := isUpcoming_iff.1 h
  obtain ⟨hstart', hstop'⟩ := isUpcoming_iff.1 hnext
  have hle : d.ordinal ≤ e.ordinal := hle
  have hweeks : d.nextMondayOrdinal = e.nextMondayOrdinal ∨
      d.ordinal < e.ordinal ∧ d.nextMondayOrdinal + 7 ≤ e.nextMondayOrdinal := by
    unfold nextMondayOrdinal Date.weekday
    omega
  rcases hweeks with heq | ⟨hlt, hweeks⟩
  · left
    obtain ⟨start, stop⟩ := w
    obtain ⟨start', stop'⟩ := next
    obtain rfl := Date.eq_of_ordinal_eq (hstart.trans (heq.trans hstart'.symm))
    obtain rfl := Date.eq_of_ordinal_eq (a := stop) (b := stop') (by rw [hstop, hstop', heq])
    rfl
  · right
    refine ⟨hlt, ?_⟩
    have hord : w.stop.ordinal ≤ next.start.ordinal := by rw [hstop, hstart']; exact hweeks
    exact hord

theorem IsUpcoming.start_eq_stop (h : IsUpcoming d w) (hnext : IsUpcoming e next)
    (hlater : IsLater 7 d e) : next.start = w.stop := by
  have hstop := (isUpcoming_iff.1 h).2
  have hstart := (isUpcoming_iff.1 hnext).1
  have hordinal := Date.isLater_iff.1 hlater
  apply Date.eq_of_ordinal_eq
  rw [hstart, hstop]
  unfold nextMondayOrdinal Date.weekday
  omega

theorem leaf_upcoming {f : FilterSpec} (hdate : f.filterType = "date")
    (hoperator : f.operator = FilterSpec.nextWeek) (now : Moment) :
    (f.leaf now).value.map LeafFilter.toJson = (resolve .upcoming now).value.map fun w =>
      LeafFilter.condition f.property "date"
        [("on_or_after", .string w.start.write), ("before", .string w.stop.write)] := by
  rw [FilterSpec.leaf_of_date hdate, FilterSpec.dateLeaf_upcoming hoperator, Option.map_map]
  rfl

/-- Upcoming weeks go from Monday to Monday and lie end to end, in the order of the days on which
they are asked for, until one would stop behind the last day of the calendar. That is the order of
the moments too when these have one offset. Filters send the weeks as texts that are read back and
are ordered like the days. -/
theorem upcoming_tiles (now : Moment) : ∃ monday,
    IsLeast {n | now.date.ordinal ≤ n ∧ n % 7 = 1} monday ∧
    ((resolve .upcoming now).value = none ↔ Date.last.ordinal < monday + 7) ∧
    (∀ w, (resolve .upcoming now).value = some w →
      w.start.ordinal = monday ∧ IsUpcoming now.date w ∧ w.start.nextMonday? = some w.start ∧
      ∀ later next, (resolve .upcoming later).value = some next →
        (w = next ∨ now.date < later.date ∧ w.stop ≤ next.start ∨
          later.date < now.date ∧ next.stop ≤ w.start) ∧
        (now.offset = later.offset → now.instant ≤ later.instant →
          w = next ∨ w.stop ≤ next.start) ∧
        (IsLater 7 now.date later.date → next.start = w.stop)) ∧
    (∀ f : FilterSpec, f.filterType = "date" → f.operator = FilterSpec.nextWeek →
      (f.leaf now).value.map LeafFilter.toJson = (resolve .upcoming now).value.map fun w =>
        LeafFilter.condition f.property "date"
          [("on_or_after", .string w.start.write), ("before", .string w.stop.write)]) ∧
    (∀ d : Date, d.write.length = 10 ∧ Moment.read? d.write = some (.ofDate d)) ∧
    ∀ d e : Date, Text.le d.write e.write = true ↔ d ≤ e := by
  refine ⟨now.date.nextMondayOrdinal, now.date.isLeast_nextMondayOrdinal, upcoming?_eq_none_iff,
    ?_, fun f hdate hoperator => leaf_upcoming hdate hoperator now,
    fun d => ⟨d.length_write, d.read?_write⟩, Date.le_write_iff⟩
  intro w hw
  have hupcoming := resolve_upcoming_eq_some_iff.1 hw
  refine ⟨(isUpcoming_iff.1 hupcoming).1, hupcoming, hupcoming.nextMonday?_start, ?_⟩
  intro later next hnext
  have hnext := resolve_upcoming_eq_some_iff.1 hnext
  refine ⟨?_, fun hoffset hle => ?_, hupcoming.start_eq_stop hnext⟩
  · rcases Nat.le_total now.date.ordinal later.date.ordinal with hle | hle
    · rcases hupcoming.eq_or_stop_le hnext hle with heq | hlater
      · exact .inl heq
      · exact .inr (.inl hlater)
    · rcases hnext.eq_or_stop_le hupcoming hle with heq | hearlier
      · exact .inl heq.symm
      · exact .inr (.inr hearlier)
  · have hdate := Moment.date_le_of_wall_le ((Moment.instant_le_iff_wall_le hoffset).1 hle)
    exact (hupcoming.eq_or_stop_le hnext hdate).imp_right And.right

/-- From the end of a February that has no leap day on. -/
theorem upcoming_tiles_leapDayEve : ∃ w, (resolve .upcoming leapDayEve).value = some w ∧
    IsLater 6 leapDayEve.date w.start ∧ IsLater 7 w.start w.stop ∧
    ∀ later next, (resolve .upcoming later).value = some next →
      IsLater 7 leapDayEve.date later.date → next.start = w.stop := by
  obtain ⟨monday, hleast, hnone, hweeks, -⟩ := upcoming_tiles leapDayEve
  have hmonday : monday = leapDayEve.date.ordinal + 6 :=
    hleast.unique leapDayEve.date.isLeast_nextMondayOrdinal
  have hsome : (resolve .upcoming leapDayEve).value ≠ none := by
    rw [Ne, hnone, hmonday]
    decide
  obtain ⟨w, hw⟩ := Option.ne_none_iff_exists'.1 hsome
  obtain ⟨hstart, hupcoming, -, hnext⟩ := hweeks w hw
  exact ⟨w, hw, Date.isLater_iff.2 (hstart.trans hmonday), hupcoming.stop,
    fun later next h => (hnext later next h).2.2⟩

/-- Far to the east it is Tuesday already, and half a day later it is still Monday far to the west.
-/
theorem upcoming_against_instants : ∃ now later w next,
    Moment.read? "2024-06-11T00:30:00+14:00" = some now ∧
    Moment.read? "2024-06-10T23:00:00-12:00" = some later ∧ now.instant < later.instant ∧
    (resolve .upcoming now).value = some w ∧ (resolve .upcoming later).value = some next ∧
    w ≠ next ∧ next.stop ≤ w.start := by
  have hfound : ((Moment.read? "2024-06-11T00:30:00+14:00").any fun now =>
      (Moment.read? "2024-06-10T23:00:00-12:00").any fun later =>
        decide (now.instant < later.instant) && (resolve .upcoming now).value.any fun w =>
          (resolve .upcoming later).value.any fun next =>
            decide (w ≠ next ∧ next.stop ≤ w.start)) = true := by
    decide +kernel
  simp only [Option.any_eq_true, Bool.and_eq_true, decide_eq_true_eq] at hfound
  obtain ⟨now, hnow, later, hlater, hlt, w, hw, next, hnext, hne, hle⟩ := hfound
  exact ⟨now, later, w, next, hnow, hlater, hlt, hw, hnext, hne, hle⟩

end Week

end SchemaQuery
