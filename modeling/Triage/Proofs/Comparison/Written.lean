import Triage.Proofs.Calendar.Written
import Triage.Proofs.Comparison.Operand

namespace Triage

open Text

namespace Comparison

variable {α : Type} {operand : Text → Option α} {writes : α → Text → Prop} {c : Comparison α}

inductive Written (writes : α → Text → Prop) : Comparison α → Text → Prop
  | eq {v : α} {t : Text} (h : writes v t) : Written writes (eq v) t
  | gt {v : α} {t : Text} (h : writes v t) : Written writes (gt v) (">".toList ++ t)
  | ge {v : α} {t : Text} (h : writes v t) : Written writes (ge v) (">=".toList ++ t)
  | lt {v : α} {t : Text} (h : writes v t) : Written writes (lt v) ("<".toList ++ t)
  | le {v : α} {t : Text} (h : writes v t) : Written writes (le v) ("<=".toList ++ t)
  | between {l u : α} {low high : Text} (hlow : writes l low) (hhigh : writes u high) :
      Written writes (between l u) (low ++ "..".toList ++ high)

theorem exists_written (h : ∀ v, ∃ t, writes v t) (c : Comparison α) : ∃ t, Written writes c t := by
  cases c with
  | eq v => exact (h v).imp fun _ => .eq
  | gt v => exact (h v).elim fun _ ht => ⟨_, .gt ht⟩
  | ge v => exact (h v).elim fun _ ht => ⟨_, .ge ht⟩
  | lt v => exact (h v).elim fun _ ht => ⟨_, .lt ht⟩
  | le v => exact (h v).elim fun _ ht => ⟨_, .le ht⟩
  | between l u =>
      obtain ⟨low, hlow⟩ := h l
      obtain ⟨high, hhigh⟩ := h u
      exact ⟨_, .between hlow hhigh⟩

theorem Written.read?_eq_some {t : Text} (h : Written writes c t) (hop : Operand operand)
    (hreads : ∀ v ∈ c.operands, ∀ s, writes v s → operand s = some v) : read? operand t = some c := by
  cases h with
  | eq h => exact read?_plain hop (hreads _ (.head _) _ h)
  | gt h => exact read?_gt hop (hreads _ (.head _) _ h)
  | ge h => exact read?_ge hop (hreads _ (.head _) _ h)
  | lt h => exact read?_lt hop (hreads _ (.head _) _ h)
  | le h => exact read?_le hop (hreads _ (.head _) _ h)
  | between hlow hhigh =>
      exact read?_range hop (hreads _ (.head _) _ hlow) (hreads _ (.tail _ (.head _)) _ hhigh)

theorem read?_of_loose (hop : Operand operand) (hreads : ∀ v ∈ c.operands, ∀ s, writes v s → operand s = some v)
    {t : Text} (h : Loose (Written (Loose writes)) c t) : read? operand t = some c := by
  obtain ⟨inner, hwritten, hspaced⟩ := h
  have hinner : read? operand inner = some c := by
    refine hwritten.read?_eq_some hop fun v hv s ⟨bare, hbare, hs⟩ => ?_
    rw [hop.trims hs.trim_eq, hreads v hv bare hbare]
  rw [← hinner, read?_eq, read?_eq, hspaced.trim_eq]

end Comparison

theorem Text.Decimal.readInteger?_eq {n : Int} {t : Text} (h : Decimal n t) (hword : inWord n) :
    readInteger? t = some n := by
  rw [readInteger?, trim_of_not_isBlank h.isBlank_eq_false, word?, h.integer?_eq]
  exact Option.filter_eq_some_iff.2 ⟨rfl, hword⟩

namespace DateCondition

def Fits : DateCondition → Prop
  | .date _ => True
  | .age c => ∀ n ∈ c.operands, inWord n

inductive Written : DateCondition → Text → Prop
  | date {c : Comparison Date} {t : Text} (h : Loose (Comparison.Written (Loose Date.Written)) c t) : Written (date c) t
  | age {c : Comparison Int} {t : Text} (h : Loose (Comparison.Written (Loose Decimal)) c t) : Written (age c) t

theorem exists_written (c : DateCondition) : ∃ t, Written c t := by
  have hdate (d : Date) : ∃ t, Loose Date.Written d t := ⟨d.write, loose_of_writes d.written_write⟩
  have hage (n : Int) : ∃ t, Loose Decimal n t := ⟨ofInt n, loose_of_writes (decimal_ofInt n)⟩
  cases c with
  | date c => exact (Comparison.exists_written hdate c).imp fun _ h => .date (loose_of_writes h)
  | age c => exact (Comparison.exists_written hage c).imp fun _ h => .age (loose_of_writes h)

theorem Written.read?_eq_some {c : DateCondition} {t : Text} (h : Written c t) (hfits : Fits c) :
    read? t = some c := by
  cases h with
  | date h =>
      exact read?_of_dates (Comparison.read?_of_loose Comparison.operand_date (fun _ _ _ hd => hd.read?_eq) h)
  | age h =>
      refine read?_of_integers (Comparison.read?_of_loose Comparison.operand_integer (fun n hn _ hdecimal => ?_) h)
      exact hdecimal.readInteger?_eq (hfits n hn)

theorem not_date_and_age (t : Text) :
    Comparison.read? Date.read? t = none ∨ Comparison.read? readInteger? t = none := by
  cases hage : Comparison.read? readInteger? t with
  | none => exact .inr rfl
  | some c => exact .inl (Comparison.read?_eq_none Date.read?_of_readInteger? hage)

theorem decodes_written :
    (∀ c, Fits c → (∃ t, Written c t) ∧ ∀ t, Written c t → read? t = some c) ∧
    (∀ t, Comparison.read? Date.read? t = none ∨ Comparison.read? readInteger? t = none) ∧
    ∀ t, read? t = ((Comparison.read? readInteger? t).map age).or ((Comparison.read? Date.read? t).map date) := by
  refine ⟨fun c hfits => ⟨exists_written c, fun t h => h.read?_eq_some hfits⟩, not_date_and_age, fun t => ?_⟩
  rcases not_date_and_age t with hdate | hage
  · rw [read?, hdate, Option.map_none, Option.or_none]
  · rw [read?, hage, Option.map_none, Option.none_or]
    cases Comparison.read? Date.read? t <;> rfl

def sinceIdes : DateCondition := .date (.between ⟨-43, 3, 15, by decide⟩ ⟨9957, 3, 15, by decide⟩)

def ofAnyAge : DateCondition := .age (.ge (-9223372036854775808))

theorem decodes_written_signed :
    Fits sinceIdes ∧ Written sinceIdes " -0043-03-15 ..\t9957-03-15\n".toList ∧
    read? " -0043-03-15 ..\t9957-03-15\n".toList = some sinceIdes ∧
    Fits ofAnyAge ∧ Written ofAnyAge ">= -09223372036854775808".toList ∧
    read? ">= -09223372036854775808".toList = some ofAnyAge := by
  have hides : Date.Written ⟨-43, 3, 15, by decide⟩ "-0043-03-15".toList := ⟨_, .signed (.minus 4 43), by decide⟩
  have hlater : Date.Written ⟨9957, 3, 15, by decide⟩ "9957-03-15".toList :=
    ⟨_, .plain (show 9957 ≤ 9999 by decide), by decide⟩
  have hrange : Written sinceIdes " -0043-03-15 ..\t9957-03-15\n".toList :=
    .date ⟨_, .between ⟨_, hides, [' '], [' '], rfl, rfl, rfl⟩ ⟨_, hlater, ['\t'], [], rfl, rfl, rfl⟩, [], ['\n'], rfl,
      rfl, rfl⟩
  have hleast : Written ofAnyAge ">= -09223372036854775808".toList :=
    .age (loose_of_writes (.ge ⟨_, .signed (.minus 20 9223372036854775808), [' '], [], rfl, rfl, by decide⟩))
  have hfits : Fits ofAnyAge := by simp [Fits, ofAnyAge, Comparison.operands, inWord]
  exact ⟨trivial, hrange, (decodes_written.1 sinceIdes trivial).2 _ hrange, hfits, hleast,
    (decodes_written.1 ofAnyAge hfits).2 _ hleast⟩

end DateCondition

end Triage
