import Triage.Proofs.Milestone.Reference

/-!
What a text means as a reference to a milestone, in terms of unbounded integers: the place so many places on or back from
the current one, where the sequence has one, and no milestone otherwise. A reference is malformed just if it means none
whatever the sequence is.
-/

namespace Triage.Milestone

open Text

namespace Reference

def Refers (t tail : Text) : Prop :=
  (t.lowerAscii = "current".toList ++ tail ∨ t.lowerAscii = "curr".toList ++ tail) ∧
    ∀ c ∈ tail.head?, c = '+' ∨ c = '-'

def Denotes (digits : Text) (n : Nat) : Prop :=
  digits ≠ [] ∧ (∀ c ∈ digits, c.isDigit) ∧ Nat.ofDigitChars 10 digits 0 = n

inductive Leads : Text → Int → Prop
  | here : Leads [] 0
  | signed {n sign places digits} : Directed n sign places → Denotes digits n → Leads (sign :: digits) places

theorem natural?_eq_some_iff {digits : Text} {n : Nat} : natural? digits = some n ↔ Denotes digits n := by
  simp only [natural?, Denotes, digitsValue, List.all_eq_true, Nat.ofDigitChars_eq_foldl]
  constructor
  · intro h
    obtain ⟨⟨hne, hdigits⟩, hn⟩ := Option.ite_none_right_eq_some.1 h
    exact ⟨hne, hdigits, Option.some.inj hn⟩
  · rintro ⟨hne, hdigits, rfl⟩
    exact if_pos ⟨hne, hdigits⟩

theorem Directed.natAbs {n : Nat} {sign : Char} {places : Int} (h : Directed n sign places) : places.natAbs = n := by
  cases h with
  | forward => exact Int.natAbs_natCast n
  | back => rw [Int.natAbs_neg, Int.natAbs_natCast]

theorem ofTail_of_leads {tail : Text} {places : Int} (h : Leads tail places) :
    ofTail tail = if places.natAbs < 2 ^ 63 then .offset places else .malformed := by
  cases h with
  | here => rfl
  | signed hdirected hn => rw [ofTail_directed hdirected (natural?_eq_some_iff.2 hn), hdirected.natAbs]

theorem ofTail_of_not_leads {tail : Text} (hsign : ∀ c ∈ tail.head?, c = '+' ∨ c = '-')
    (h : ∀ places, ¬ Leads tail places) : ofTail tail = .malformed := by
  cases tail with
  | nil => exact absurd .here (h 0)
  | cons sign digits =>
      have hdirected (n : Nat) : ∃ places, Directed n sign places := by
        rcases hsign sign rfl with rfl | rfl
        · exact ⟨_, .forward⟩
        · exact ⟨_, .back⟩
      have hnumber (n : Nat) : natural? digits ≠ some n := by
        intro hn
        obtain ⟨places, hplaces⟩ := hdirected n
        exact h places (.signed hplaces (natural?_eq_some_iff.1 hn))
      have hplaces : places? digits = none := by
        rw [places?, Option.eq_none_iff_forall_ne_some.2 hnumber]
        rfl
      rcases hsign sign rfl with rfl | rfl
      · rw [ofTail, hplaces]
      · rw [ofTail, hplaces]

theorem ofTail_cases {tail : Text} (hsign : ∀ c ∈ tail.head?, c = '+' ∨ c = '-') :
    (∃ places, Leads tail places ∧ places.natAbs < 2 ^ 63 ∧ ofTail tail = .offset places) ∨
      ofTail tail = .malformed := by
  by_cases hleads : ∃ places, Leads tail places
  · obtain ⟨places, hleads⟩ := hleads
    have hread := ofTail_of_leads hleads
    split at hread
    · next hword => exact .inl ⟨places, hleads, hword, hread⟩
    · exact .inr hread
  · exact .inr (ofTail_of_not_leads hsign (not_exists.1 hleads))

theorem ofTail_eq_title {tail : Text} (h : ¬ ∀ c ∈ tail.head?, c = '+' ∨ c = '-') : ofTail tail = .title := by
  unfold ofTail
  split <;> simp_all

theorem read_of_refers {t tail : Text} (h : Refers t tail) : read t = ofTail tail := by
  obtain ⟨hword, hsign⟩ := h
  rw [read, words, List.findSome?_cons]
  rcases hword with hword | hword
  · rw [hword, dropPrefix?_append]
  · -- The longer word does not stand there: the letter after the shorter one is no sign.
    have hlonger : dropPrefix? "current".toList t.lowerAscii = none := by
      refine dropPrefix?_eq_none fun rest hrest => ?_
      obtain rfl : tail = "ent".toList ++ rest := List.append_cancel_left (hword.symm.trans hrest)
      exact absurd (hsign 'e' rfl) (by decide)
    rw [hlonger, hword, List.findSome?_cons, dropPrefix?_append]

theorem read_of_not_refers {t : Text} (h : ∀ tail, ¬ Refers t tail) : read t = .title := by
  rw [read]
  split
  · next tail hfind =>
      obtain ⟨word, hword, hdrop⟩ := List.exists_of_findSome?_eq_some hfind
      have ht := dropPrefix?_eq_some_iff.1 hdrop
      refine ofTail_eq_title fun hsign => h tail ⟨?_, hsign⟩
      simp only [words, List.mem_cons, List.not_mem_nil, or_false] at hword
      rcases hword with rfl | rfl
      · exact .inl ht
      · exact .inr ht
  · rfl

theorem resolve_offset_eq_iff {count index : Nat} {current : Option Nat} {places : Int} :
    (offset places).resolve count current = .resolved index ↔
      ∃ c, current = some c ∧ c < 2 ^ 63 ∧ index < 2 ^ 63 ∧ (index : Int) = c + places ∧ index < count := by
  cases current with
  | none => simp [resolve]
  | some c =>
      simp only [resolve, Option.some.injEq, exists_eq_left', inWord, Bool.and_eq_true, decide_eq_true_eq,
        Int.ofNat_eq_natCast]
      constructor
      · intro h
        split at h
        · obtain rfl := Resolution.resolved.inj h
          omega
        · cases h
      · intro h
        rw [if_pos (by omega)]
        congr 1
        omega

theorem resolve_offset_eq_unresolved {count : Nat} {current : Option Nat} {places : Int}
    (h : ∀ index, (offset places).resolve count current ≠ .resolved index) :
    (offset places).resolve count current = .unresolved := by
  cases current with
  | none => rfl
  | some c =>
      rw [resolve] at h ⊢
      split
      · next hplace => exact absurd (if_pos hplace) (h _)
      · rfl

end Reference

open Reference

theorem lt_of_resolve {t : Text} {count index : Nat} {current : Option Nat}
    (h : resolve t count current = .resolved index) : index < count := by
  rw [resolve] at h
  cases hread : read t with
  | offset places =>
      rw [hread] at h
      obtain ⟨c, -, -, -, -, hlt⟩ := resolve_offset_eq_iff.1 h
      exact hlt
  | title | malformed =>
      rw [hread] at h
      cases h

inductive Resolves (t : Text) (count : Nat) (current : Option Nat) : Resolution → Prop
  | title : (∀ tail, ¬ Refers t tail) → Resolves t count current .notReference
  | place {tail places} {c index : Nat} : Refers t tail → Leads tail places → current = some c →
      (index : Int) = c + places → index < count → Resolves t count current (.resolved index)
  | nowhere {tail} : Refers t tail →
      (∀ (places : Int) (c index : Nat), Leads tail places → current = some c → (index : Int) = c + places →
        ¬ index < count) →
      Resolves t count current .unresolved

theorem exists_resolves (t : Text) (count : Nat) (current : Option Nat) : ∃ r, Resolves t count current r := by
  by_cases hrefers : ∃ tail, Refers t tail
  · obtain ⟨tail, hrefers⟩ := hrefers
    by_cases hplace : ∃ (places : Int) (c index : Nat),
      Leads tail places ∧ current = some c ∧ (index : Int) = c + places ∧ index < count
    · obtain ⟨places, c, index, hleads, hcurrent, hindex, hlt⟩ := hplace
      exact ⟨_, .place hrefers hleads hcurrent hindex hlt⟩
    · exact ⟨_, .nowhere hrefers fun places c index hleads hcurrent hindex hlt =>
        hplace ⟨places, c, index, hleads, hcurrent, hindex, hlt⟩⟩
  · exact ⟨_, .title (not_exists.1 hrefers)⟩

theorem resolve_of_resolves {t : Text} {count : Nat} {current : Option Nat} {r : Resolution}
    (hcount : count ≤ 2 ^ 63 - 1) (hcurrent : ∀ c ∈ current, c ≤ 2 ^ 63 - 1) (h : Resolves t count current r) :
    resolve t count current = r := by
  rw [resolve]
  cases h with
  | title hrefers =>
      rw [read_of_not_refers hrefers]
      rfl
  | place hrefers hleads hc hindex hlt =>
      have hbound := hcurrent _ hc
      rw [read_of_refers hrefers, ofTail_of_leads hleads, if_pos (by omega)]
      exact resolve_offset_eq_iff.2 ⟨_, hc, by omega, by omega, hindex, hlt⟩
  | nowhere hrefers hnone =>
      rw [read_of_refers hrefers]
      rcases ofTail_cases hrefers.2 with ⟨places, hleads, -, hread⟩ | hread
      · rw [hread]
        refine resolve_offset_eq_unresolved fun index hindex => ?_
        obtain ⟨c, hc, -, -, hplace, hlt⟩ := resolve_offset_eq_iff.1 hindex
        exact hnone places c index hleads hc hplace hlt
      · rw [hread]
        rfl

theorem isMalformedReference_iff {t : Text} : isMalformedReference t ↔ read t = .malformed := by
  rw [isMalformedReference, beq_iff_eq]

theorem natAbs_lt_of_read {t : Text} {places : Int} (h : read t = .offset places) : places.natAbs < 2 ^ 63 := by
  by_cases hrefers : ∃ tail, Refers t tail
  · obtain ⟨tail, hrefers⟩ := hrefers
    rw [read_of_refers hrefers] at h
    rcases ofTail_cases hrefers.2 with ⟨places', -, hword, hread⟩ | hread
    · obtain rfl := Reference.offset.inj (hread.symm.trans h)
      exact hword
    · cases hread.symm.trans h
  · cases (read_of_not_refers (not_exists.1 hrefers)).symm.trans h

theorem exists_resolved {places : Int} (h : places.natAbs < 2 ^ 63) :
    ∃ count c index : Nat, count < 2 ^ 64 ∧ c < 2 ^ 64 ∧
      (offset places).resolve count (some c) = .resolved index := by
  refine ⟨places.toNat + 1, (-places).toNat, places.toNat, by omega, by omega, ?_⟩
  exact resolve_offset_eq_iff.2 ⟨_, rfl, by omega, by omega, by omega, by omega⟩

theorem read_eq_malformed_iff {t : Text} :
    read t = .malformed ↔ ∀ (count : Nat) (current : Option Nat), count < 2 ^ 64 → (∀ c ∈ current, c < 2 ^ 64) →
      resolve t count current = .unresolved := by
  simp only [resolve]
  constructor
  · intro h count current _ _
    rw [h]
    rfl
  · intro h
    cases hread : read t with
    | malformed => rfl
    | title =>
        have hnone := h 0 none (by decide) (by simp)
        rw [hread] at hnone
        cases hnone
    | offset places =>
        obtain ⟨count, c, index, hcount, hc, hresolved⟩ := exists_resolved (natAbs_lt_of_read hread)
        have hnone := h count (some c) hcount (by simpa using hc)
        rw [hread, hresolved] at hnone
        cases hnone

theorem resolves_exactly (t : Text) :
    (∀ (count : Nat) (current : Option Nat), count ≤ 2 ^ 63 - 1 → (∀ c ∈ current, c ≤ 2 ^ 63 - 1) →
      ∀ r, resolve t count current = r ↔ Resolves t count current r) ∧
    (isMalformedReference t ↔
      ∀ (count : Nat) (current : Option Nat), count < 2 ^ 64 → (∀ c ∈ current, c < 2 ^ 64) →
        resolve t count current = .unresolved) := by
  refine ⟨fun count current hcount hcurrent r => ?_, isMalformedReference_iff.trans read_eq_malformed_iff⟩
  constructor
  · intro h
    obtain ⟨r', hr⟩ := exists_resolves t count current
    rwa [← h, resolve_of_resolves hcount hcurrent hr]
  · exact resolve_of_resolves hcount hcurrent

theorem resolves_exactly_back :
    3 ≤ 2 ^ 63 - 1 ∧ (∀ c ∈ some 2, c ≤ 2 ^ 63 - 1) ∧ Resolves "CURR-02".toList 3 (some 2) (.resolved 0) ∧
      resolve "CURR-02".toList 3 (some 2) = .resolved 0 := by
  have hcount : 3 ≤ 2 ^ 63 - 1 := by decide
  have hcurrent : ∀ c ∈ some 2, c ≤ 2 ^ 63 - 1 := by simp
  have hrefers : Refers "CURR-02".toList "-02".toList := ⟨by decide, by simp⟩
  have hdigits : ∀ c ∈ "02".toList, c.isDigit := List.all_eq_true.1 (by decide)
  have hleads : Leads "-02".toList (-2) := .signed .back ⟨by decide, hdigits, by decide⟩
  have hplace : Resolves "CURR-02".toList 3 (some 2) (.resolved 0) := .place hrefers hleads rfl rfl (by decide)
  exact ⟨hcount, hcurrent, hplace, ((resolves_exactly _).1 3 (some 2) hcount hcurrent _).2 hplace⟩

end Triage.Milestone
