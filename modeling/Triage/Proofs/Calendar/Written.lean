import Triage.Calendar.Reader
import Triage.Proofs.Calendar.Folding
import Triage.Proofs.Text.Numeral
import Triage.Proofs.Text.Trimming

namespace Triage

namespace Text

theorem isBlank_eq_false_of_isDigit {c : Char} (h : c.isDigit) : isBlank c = false := by
  rw [Char.isDigit, Bool.and_eq_true, decide_eq_true_eq, decide_eq_true_eq] at h
  have hfirst : 48 ≤ c.toNat := UInt32.le_iff_toNat_le.1 h.1
  have hlast : c.toNat ≤ 57 := UInt32.le_iff_toNat_le.1 h.2
  simp only [isBlank, Bool.or_eq_false_iff, Bool.and_eq_false_iff, decide_eq_false_iff_not, beq_eq_false_iff_ne]
  omega

theorem isBlank_ofNatPadded (width n : Nat) : ∀ c ∈ ofNatPadded width n, isBlank c = false :=
  fun c hc => isBlank_eq_false_of_isDigit (List.all_eq_true.1 (all_isDigit_ofNatPadded width n) c hc)

theorem Signed.isBlank_eq_false {v : Int} {t : Text} (h : Signed v t) : ∀ c ∈ t, isBlank c = false := by
  cases h with
  | plus width n | minus width n => exact List.forall_mem_cons.2 ⟨by decide, isBlank_ofNatPadded width n⟩

theorem Decimal.isBlank_eq_false {v : Int} {t : Text} (h : Decimal v t) : ∀ c ∈ t, isBlank c = false := by
  cases h with
  | plain width n => exact isBlank_ofNatPadded width n
  | signed h => exact h.isBlank_eq_false

theorem trimStart_ofNatPadded (width n : Nat) (rest : Text) :
    trimStart (ofNatPadded width n ++ rest) = ofNatPadded width n ++ rest := by
  obtain ⟨c, t, heq, hc⟩ := exists_ofNatPadded width n
  rw [heq]
  exact trimStart_cons (isBlank_eq_false_of_isDigit hc) _

end Text

open Text Calendar

namespace Calendar

theorem daysInMonth_le (year : Int) (month : Nat) : daysInMonth year month ≤ 31 := by
  rw [daysInMonth.eq_def]
  split
  · split <;> decide
  all_goals decide

end Calendar

namespace Date

inductive YearWritten : Int → Text → Prop
  | plain {n : Nat} (h : n ≤ 9999) : YearWritten n (ofNatPadded 4 n)
  | signed {y : Int} {t : Text} (h : Signed y t) : YearWritten y t

def Written (d : Date) (t : Text) : Prop :=
  ∃ y, YearWritten d.year y ∧ t = y ++ '-' :: ofNatPadded 2 d.month ++ '-' :: ofNatPadded 2 d.day

theorem yearWritten_yearText (y : Int) : YearWritten y (yearText y) := by
  rw [yearText]
  split
  · next h =>
      have hplain : YearWritten y.toNat (ofNatPadded 4 y.toNat) := .plain (by omega)
      rwa [Int.toNat_of_nonneg h.1] at hplain
  · split
    · next hneg =>
        have hminus := Signed.minus 4 y.natAbs
        rw [Int.ofNat_natAbs_of_nonpos (Int.le_of_lt hneg), Int.neg_neg] at hminus
        exact .signed hminus
    · next hnonneg =>
        have hplus := Signed.plus 4 y.natAbs
        rw [Int.natAbs_of_nonneg (Int.not_lt.1 hnonneg)] at hplus
        exact .signed hplus

theorem written_write (d : Date) : d.Written d.write :=
  ⟨yearText d.year, yearWritten_yearText d.year, rfl⟩

end Date

namespace Calendar

namespace Reader

theorem run_skipBlanks {c : Char} (h : isBlank c = false) (t : Text) :
    skipBlanks.run (c :: t) = some ((), c :: t) := by
  show some ((), trimStart (c :: t)) = _
  rw [trimStart_cons h]

theorem run_literal (c : Char) (t : Text) : (literal c).run (c :: t) = some ((), t) := by
  show (if c == c then some ((), t) else none) = _
  rw [beq_self_eq_true]
  rfl

theorem run_digits {width n : Nat} (hwidth : 0 < width) (h : n < 10 ^ width) (rest : Text) :
    (digits width).run (ofNatPadded width n ++ rest) = some (ofNatPadded width n, rest) :=
  leadingDigits?_append (all_isDigit_ofNatPadded width n) (ofNatPadded_ne_nil width n)
    (.inl (length_ofNatPadded hwidth h))

theorem run_number {width n : Nat} (hwidth : 0 < width) (h : n < 10 ^ width) (rest : Text) :
    (number width).run (ofNatPadded width n ++ rest) = some (n, rest) := by
  have hskip : skipBlanks.run (ofNatPadded width n ++ rest) = some ((), ofNatPadded width n ++ rest) :=
    congrArg (fun t => some ((), t)) (trimStart_ofNatPadded width n rest)
  rw [number, StateT.run_bind, hskip]
  show ((digits width).run _).bind (fun r => some (r.1.digitsValue, r.2)) = _
  rw [run_digits hwidth h]
  exact congrArg (fun n => some (n, rest)) (digitsValue_ofNatPadded width n)

theorem run_digits_hyphen (width n : Nat) {most : Nat} (hmost : (ofNatPadded width n).length ≤ most)
    (value : Text → Int) (rest : Text) :
    StateT.run (do return value (← digits most)) (ofNatPadded width n ++ '-' :: rest) =
      some (value (ofNatPadded width n), '-' :: rest) := by
  have hdigits : (digits most).run (ofNatPadded width n ++ '-' :: rest) = some (ofNatPadded width n, '-' :: rest) :=
    leadingDigits?_append (all_isDigit_ofNatPadded width n) (ofNatPadded_ne_nil width n) (.inr ⟨hmost, rfl⟩)
  rw [StateT.run_bind, hdigits]
  rfl

theorem run_year_written {y : Int} {t : Text} (h : Date.YearWritten y t) (rest : Text) :
    year.run (t ++ '-' :: rest) = some (y, '-' :: rest) := by
  rw [run_year]
  cases h with
  | @plain n hn =>
      have hlength : (ofNatPadded 4 n).length = 4 := length_ofNatPadded (by decide) (by omega)
      obtain ⟨c, t, heq, hc⟩ := exists_ofNatPadded 4 n
      have hsign {mark : Char} (hmark : mark.isDigit = false) :
          dropPrefix? [mark] (ofNatPadded 4 n ++ '-' :: rest) = none := by
        rw [heq]
        refine dropPrefix?_eq_none fun rest h => ?_
        obtain ⟨rfl, -⟩ := List.cons.inj h
        exact Bool.false_ne_true (hmark.symm.trans hc)
      rw [trimStart_ofNatPadded, hsign (by decide), hsign (by decide)]
      refine (run_digits_hyphen 4 n (Nat.le_of_eq hlength) (fun run => Int.ofNat run.digitsValue) rest).trans ?_
      rw [digitsValue_ofNatPadded, Int.ofNat_eq_natCast]
  | signed h =>
      have hmost (width n : Nat) : (ofNatPadded width n).length ≤ (ofNatPadded width n ++ '-' :: rest).length :=
        List.IsPrefix.length_le ⟨_, rfl⟩
      cases h with
      | plus width n =>
          rw [List.cons_append, trimStart_cons (by decide)]
          refine (run_digits_hyphen width n (hmost width n) (fun run => Int.ofNat run.digitsValue) rest).trans ?_
          rw [digitsValue_ofNatPadded, Int.ofNat_eq_natCast]
      | minus width n =>
          rw [List.cons_append, trimStart_cons (by decide)]
          refine (run_digits_hyphen width n (hmost width n) (fun run => -Int.ofNat run.digitsValue) rest).trans ?_
          rw [digitsValue_ofNatPadded, Int.ofNat_eq_natCast]

theorem run_date_written {gap : Reader Unit} (hgap : ∀ t, gap.run ('-' :: t) = some ((), '-' :: t)) {d : Date}
    {t : Text} (h : d.Written t) (rest : Text) : (date gap).run (t ++ rest) = some (d, rest) := by
  obtain ⟨y, hyear, rfl⟩ := h
  obtain ⟨-, -, -, hmonth, -, hday⟩ := d.valid
  have hmonth' : d.month < 10 ^ 2 := by omega
  have hday' : d.day < 10 ^ 2 := Nat.lt_of_le_of_lt (Nat.le_trans hday (daysInMonth_le _ _)) (by decide)
  simp only [date, List.append_assoc, List.cons_append, StateT.run_bind, run_year_written hyear,
    Option.bind_eq_bind, Option.bind_some, hgap, run_literal, run_number (show 0 < 2 by decide) hmonth',
    run_number (show 0 < 2 by decide) hday', Date.ofYmd?_eq]
  rfl

theorem run_date_write (d : Date) (rest : Text) : (date skipBlanks).run (d.write ++ rest) = some (d, rest) :=
  run_date_written (run_skipBlanks (by decide)) d.written_write rest

theorem run_fraction_places {k v : Nat} (hpos : 0 < k) (hk : k ≤ 9) (h : v < 10 ^ k) (rest : Text) :
    fraction.run ('.' :: ofNatPadded k v ++ 'Z' :: rest) = some (v * 10 ^ (9 - k), 'Z' :: rest) := by
  have hlength := length_ofNatPadded hpos h
  have hdigits : (digits 9).run (ofNatPadded k v ++ 'Z' :: rest) = some (ofNatPadded k v, 'Z' :: rest) :=
    leadingDigits?_append (all_isDigit_ofNatPadded k v) (ofNatPadded_ne_nil k v)
      (.inr ⟨Nat.le_trans (Nat.le_of_eq hlength) hk, rfl⟩)
  show ((digits 9).run (ofNatPadded k v ++ 'Z' :: rest)).bind (fun r =>
    some (r.1.digitsValue * Nat.pow 10 (9 - r.1.length), r.2.dropWhile Char.isDigit)) = _
  rw [hdigits]
  show some ((ofNatPadded k v).digitsValue * 10 ^ (9 - (ofNatPadded k v).length), 'Z' :: rest) = _
  rw [hlength, digitsValue_ofNatPadded]

theorem run_fraction_fractionText {n : Nat} (h : n < nanosPerSecond) (rest : Text) :
    fraction.run (Timestamp.fractionText n ++ 'Z' :: rest) = some (n, 'Z' :: rest) := by
  have hn : n < 1000000000 := h
  rw [Timestamp.fractionText]
  split
  · next hzero =>
      rw [hzero]
      rfl
  · split
    · next hmilli =>
        have heq : n / 1000000 * 10 ^ (9 - 3) = n := Nat.div_mul_cancel (Nat.dvd_of_mod_eq_zero hmilli)
        rw [run_fraction_places (by decide) (by decide) (by omega), heq]
    · split
      · next hmicro =>
          have heq : n / 1000 * 10 ^ (9 - 6) = n := Nat.div_mul_cancel (Nat.dvd_of_mod_eq_zero hmicro)
          rw [run_fraction_places (by decide) (by decide) (by omega), heq]
      · rw [run_fraction_places (by decide) (by decide) hn, Nat.sub_self, Nat.pow_zero, Nat.mul_one]

end Reader

end Calendar

theorem Date.YearWritten.isBlank_eq_false {y : Int} {t : Text} (h : YearWritten y t) : ∀ c ∈ t, isBlank c = false := by
  cases h with
  | @plain n _ => exact isBlank_ofNatPadded 4 n
  | signed h => exact h.isBlank_eq_false

theorem Date.Written.isBlank_eq_false {d : Date} {t : Text} (h : d.Written t) : ∀ c ∈ t, isBlank c = false := by
  obtain ⟨y, hyear, rfl⟩ := h
  have hpart (n : Nat) : ∀ c ∈ '-' :: ofNatPadded 2 n, isBlank c = false :=
    List.forall_mem_cons.2 ⟨by decide, isBlank_ofNatPadded 2 n⟩
  exact List.forall_mem_append.2 ⟨List.forall_mem_append.2 ⟨hyear.isBlank_eq_false, hpart d.month⟩, hpart d.day⟩

theorem Date.Written.read?_eq {d : Date} {t : Text} (h : d.Written t) : read? t = some d := by
  have hdate : (Reader.date (pure ())).run (t ++ []) = some (d, []) := Reader.run_date_written (fun _ => rfl) h []
  rw [List.append_nil] at hdate
  rw [Date.read?, trim_of_not_isBlank h.isBlank_eq_false, Reader.whole?, hdate]

theorem Date.readLoose?_write (d : Date) : readLoose? d.write = some d := by
  have hdate := Reader.run_date_write d []
  rw [List.append_nil] at hdate
  rw [readLoose?, Reader.whole?, StateT.run_bind, hdate]
  rfl

namespace Timestamp

theorem ofLocal?_universal (t : Timestamp) : ofLocal? t.date t.second t.nano 0 = some t := by
  have hsecond : (t.second : Int) < secondsPerDay := Int.ofNat_lt.2 t.valid.1
  simp only [ofLocal?, Int.ofNat_eq_natCast, Int.sub_zero]
  rw [if_neg (Int.not_lt.2 (Int.natCast_nonneg _)), if_pos hsecond, Int.toNat_natCast, ofTime?, dif_pos t.valid]

/-- The second and its parts that a clock shows, in which a leap second is one more second and not more parts. -/
theorem ofLocal?_shown (t : Timestamp) :
    let start := t.second / 3600 * 3600 + t.second / 60 % 60 * 60
    let shown := t.second % 60 + t.nano / nanosPerSecond
    shown ≤ 60 ∧
      (if shown = 60 then ofLocal? t.date (start + 59) (t.nano % nanosPerSecond + nanosPerSecond) 0
        else ofLocal? t.date (start + shown) (t.nano % nanosPerSecond) 0) = some t := by
  have hclock : t.second / 3600 * 3600 + t.second / 60 % 60 * 60 + t.second % 60 = t.second := by omega
  dsimp only
  by_cases hleap : t.nano < nanosPerSecond
  · rw [Nat.div_eq_of_lt hleap, Nat.mod_eq_of_lt hleap, Nat.add_zero, hclock]
    have hshown : t.second % 60 < 60 := Nat.mod_lt _ (by decide)
    exact ⟨Nat.le_of_lt hshown, by rw [if_neg (Nat.ne_of_lt hshown), ofLocal?_universal]⟩
  · obtain ⟨hlast, hnano⟩ := t.valid.2.resolve_left hleap
    have hone : t.nano / nanosPerSecond = 1 := by
      rw [nanosPerSecond] at *
      omega
    have hparts : t.nano % nanosPerSecond + nanosPerSecond = t.nano := by
      rw [nanosPerSecond] at *
      omega
    rw [hone, hparts, hlast, if_pos rfl, ← hlast, hclock]
    exact ⟨Nat.le_of_eq (congrArg (· + 1) hlast), ofLocal?_universal t⟩

theorem read?_write (t : Timestamp) : read? t.write = some t := by
  have hsecond : t.second < 86400 := t.valid.1
  obtain ⟨hshown, hlocal⟩ := t.ofLocal?_shown
  have hhour : t.second / 3600 < 24 := by omega
  have hminute : t.second / 60 % 60 < 60 := Nat.mod_lt _ (by decide)
  have hfraction : t.nano % nanosPerSecond < nanosPerSecond := Nat.mod_lt _ (by decide)
  have hT (rest : Text) : (Reader.char fun c => c == 'T' || c == 't' || c == ' ').run ('T' :: rest) = some ((), rest) :=
    rfl
  have hoffset : Reader.offset.run ['Z'] = some (0, []) := rfl
  rw [read?, Reader.whole?]
  simp only [write, Reader.timestamp, List.append_assoc, List.cons_append, StateT.run_bind, Reader.run_date_write,
    Option.bind_eq_bind, Option.bind_some, Reader.run_skipBlanks (show isBlank ':' = false by decide),
    Reader.run_skipBlanks (show isBlank 'Z' = false by decide), Reader.run_literal,
    Reader.run_number (show 0 < 2 by decide) (show t.second / 3600 < 10 ^ 2 by omega),
    Reader.run_number (show 0 < 2 by decide) (show t.second / 60 % 60 < 10 ^ 2 by omega),
    Reader.run_number (show 0 < 2 by decide) (show t.second % 60 + t.nano / nanosPerSecond < 10 ^ 2 by omega),
    Reader.run_fraction_fractionText hfraction, hT, hoffset, if_pos (And.intro hhour (And.intro hminute hshown))]
  by_cases hleap : t.second % 60 + t.nano / nanosPerSecond = 60
  · rw [if_pos hleap] at hlocal
    rw [if_pos hleap, hlocal]
    rfl
  · rw [if_neg hleap] at hlocal
    rw [if_neg hleap, hlocal]
    rfl

end Timestamp

end Triage
