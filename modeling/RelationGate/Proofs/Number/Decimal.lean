import RelationGate.Number.Decimal

/-!
# Reading back a written number

A number that is written in decimal is read back as itself, if it fits a word (`word?_decimal`). So
different numbers have different texts (`decimal_injective`). `word?_eq_some_iff` says which texts
are read as a word.
-/

namespace RelationGate.Number

open Nat (toDigits ofDigitChars)

theorem digit?_of_isDigit {c : Char} (hc : c.isDigit = true) :
    digit? c = some (c.toNat - '0'.toNat) := by
  simp only [Char.isDigit, Bool.and_eq_true, decide_eq_true_eq] at hc
  exact if_pos hc

theorem digits?_of_isDigit {cs : List Char} (hcs : ∀ c ∈ cs, c.isDigit = true) (acc : Nat) :
    digits? cs acc = some (ofDigitChars 10 cs acc) := by
  induction cs generalizing acc with
  | nil => rfl
  | cons c cs ih =>
    rw [List.forall_mem_cons] at hcs
    have hc := digit?_of_isDigit hcs.1
    rw [digits?, hc, Nat.ofDigitChars_cons]
    exact ih hcs.2 _

theorem decimal_toList (n : Nat) : (decimal n).toList = toDigits 10 n := by
  rw [decimal, Nat.toString_eq_repr, Nat.toList_repr]

theorem isDigit_of_mem_decimal {n : Nat} {c : Char} (hc : c ∈ (decimal n).toList) :
    c.isDigit = true := by
  rw [decimal_toList] at hc
  exact Nat.isDigit_of_mem_toDigits (by decide) (by decide) hc

/-- A written number has a first digit, so it is not empty and has no sign. -/
theorem decimal_eq_cons (n : Nat) :
    ∃ c cs, (decimal n).toList = c :: cs ∧ withoutPlus (c :: cs) = c :: cs := by
  cases h : (decimal n).toList with
  | nil =>
    rw [decimal_toList] at h
    exact absurd h Nat.toDigits_ne_nil
  | cons c cs =>
    refine ⟨c, cs, rfl, ?_⟩
    have hc : c.isDigit = true := isDigit_of_mem_decimal (n := n) (h ▸ List.mem_cons_self)
    unfold withoutPlus
    split
    next heq =>
      cases heq
      exact absurd hc (by decide)
    next => rfl

theorem natural?_decimal (n : Nat) : natural? (withoutPlus (decimal n).toList) = some n := by
  obtain ⟨c, cs, h, hplus⟩ := decimal_eq_cons n
  have hdigits : ∀ d ∈ c :: cs, d.isDigit = true := by
    intro d hd
    exact isDigit_of_mem_decimal (n := n) (h ▸ hd)
  rw [h, hplus, natural?, digits?_of_isDigit hdigits, ← h, decimal_toList,
    Nat.ofDigitChars_ten_toDigits]

/-- **A written number is read back**, if it fits a word. -/
theorem word?_decimal (n : Nat) : word? (decimal n) = if n < wordBound then some n else none := by
  rw [word?, natural?_decimal]
  rfl

theorem decimal_injective : Function.Injective decimal := by
  intro m n h
  have hm := natural?_decimal m
  rw [h, natural?_decimal n] at hm
  exact (Option.some.inj hm).symm

theorem decimal_ne_empty (n : Nat) : (decimal n).isEmpty = false := by
  obtain ⟨c, cs, h, -⟩ := decimal_eq_cons n
  rw [Bool.eq_false_iff]
  intro hempty
  rw [String.isEmpty_iff] at hempty
  rw [hempty] at h
  cases h

/-! ## The texts of a word -/

theorem isDigit_of_digit? {c : Char} {n : Nat} (h : digit? c = some n) : c.isDigit = true := by
  rw [digit?, Option.ite_none_right_eq_some] at h
  simp only [Char.isDigit, Bool.and_eq_true, decide_eq_true_eq]
  exact h.1

theorem isDigit_of_digits? {cs : List Char} {acc n : Nat} (h : digits? cs acc = some n) :
    ∀ c ∈ cs, c.isDigit = true := by
  induction cs generalizing acc with
  | nil => simp
  | cons c cs ih =>
    rw [digits?] at h
    obtain ⟨d, hd, hcs⟩ := Option.bind_eq_some_iff.1 h
    exact List.forall_mem_cons.2 ⟨isDigit_of_digit? hd, ih hcs⟩

/-- A text is an unsigned number of 64 bits: one or more decimal digits, perhaps with a plus sign
before them, and a value that fits. -/
def Denotes (s : String) (n : Nat) : Prop :=
  ∃ digits : List Char, (s.toList = digits ∨ s.toList = '+' :: digits) ∧ digits ≠ [] ∧
    (∀ c ∈ digits, c.isDigit = true) ∧ ofDigitChars 10 digits 0 = n ∧ n < wordBound

theorem natural?_eq_some_iff {cs : List Char} {n : Nat} :
    natural? cs = some n ↔
      cs ≠ [] ∧ (∀ c ∈ cs, c.isDigit = true) ∧ ofDigitChars 10 cs 0 = n := by
  cases cs with
  | nil => simp [natural?]
  | cons c cs =>
    rw [natural?]
    constructor
    · intro h
      have hdigits := isDigit_of_digits? h
      rw [digits?_of_isDigit hdigits] at h
      exact ⟨List.cons_ne_nil _ _, hdigits, Option.some.inj h⟩
    · rintro ⟨-, hdigits, rfl⟩
      exact digits?_of_isDigit hdigits 0

theorem withoutPlus_eq_iff {cs digits : List Char} (hdigits : ∀ c ∈ digits, c.isDigit = true) :
    withoutPlus cs = digits ↔ cs = digits ∨ cs = '+' :: digits := by
  have hplus : ∀ rest, digits ≠ '+' :: rest := by
    rintro rest rfl
    exact absurd (hdigits '+' List.mem_cons_self) (by decide)
  unfold withoutPlus
  split
  next rest =>
    rw [List.cons.injEq]
    refine ⟨fun h => .inr ⟨rfl, h⟩, ?_⟩
    rintro (h | ⟨-, h⟩)
    · exact absurd h.symm (hplus rest)
    · exact h
  next hnone =>
    refine ⟨.inl, ?_⟩
    rintro (h | h)
    · exact h
    · exact absurd h (hnone _)

/-- **What is read as a word.** -/
theorem word?_eq_some_iff {s : String} {n : Nat} : word? s = some n ↔ Denotes s n := by
  rw [word?, Option.bind_eq_bind, Option.bind_eq_some_iff]
  constructor
  · rintro ⟨m, hm, hlt⟩
    rw [Option.ite_none_right_eq_some, Option.some.injEq] at hlt
    obtain ⟨hlt, rfl⟩ := hlt
    obtain ⟨hne, hdigits, hvalue⟩ := natural?_eq_some_iff.1 hm
    exact ⟨withoutPlus s.toList, (withoutPlus_eq_iff hdigits).1 rfl, hne, hdigits, hvalue, hlt⟩
  · rintro ⟨digits, hs, hne, hdigits, hvalue, hlt⟩
    refine ⟨n, ?_, ?_⟩
    · rw [(withoutPlus_eq_iff hdigits).2 hs]
      exact natural?_eq_some_iff.2 ⟨hne, hdigits, hvalue⟩
    · rw [if_pos hlt]

theorem word?_eq_none_iff {s : String} : word? s = none ↔ ¬ ∃ n, Denotes s n := by
  simp only [← word?_eq_some_iff, Option.eq_none_iff_forall_ne_some, not_exists, ne_eq]

/-- A text has one value. -/
theorem Denotes.unique {s : String} {m n : Nat} (hm : Denotes s m) (hn : Denotes s n) : m = n := by
  rw [← word?_eq_some_iff] at hm hn
  exact Option.some.inj (hm.symm.trans hn)

theorem denotes_decimal {n : Nat} (h : n < wordBound) : Denotes (decimal n) n := by
  rw [← word?_eq_some_iff, word?_decimal]
  exact if_pos h

end RelationGate.Number
