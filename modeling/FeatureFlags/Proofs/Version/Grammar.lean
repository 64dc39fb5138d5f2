import Mathlib.Data.List.TakeWhile
import FeatureFlags.Proofs.Text.Numerals
import FeatureFlags.Proofs.Text.Pieces
import FeatureFlags.Version

/-!
# The texts of versions

A strict version is written in one way (`Version.text`), and exactly what is written so is read as
it (`ofStrict?_eq_some_iff`). A shorthand is a number, or two numbers with a dot between them. The
main statement is that nothing else denotes a version: completing a text by zeros does not make a
version out of one that has a pre-release or a build.
-/

set_option autoImplicit false

namespace FeatureFlags.Version

open Text

/-! ### Numbers -/

/-- What is written of a number. -/
def digits (n : Nat) : List Char := Nat.toDigits 10 n

/-- Something is written of every number. -/
theorem digits_ne_nil (n : Nat) : digits n ≠ [] := Nat.toDigits_ne_nil

/-- Only digits are written of a number. -/
theorem not_mem_digits {c : Char} (hc : c.isDigit = false) (n : Nat) : c ∉ digits n := by
  intro h
  rw [isDigit_of_mem_toDigits h] at hc
  cases hc

/-- A text is numeric if all of it is digits. -/
theorem isNumeric_iff {cs : List Char} : isNumeric cs = true ↔ ∀ c ∈ cs, c.isDigit = true :=
  List.all_eq_true

/-- A number is read of what is written of it, and of nothing else. -/
theorem number?_eq_some_iff {cs : List Char} {n : Nat} :
    number? cs = some n ↔ n ≤ maxNumber ∧ cs = digits n := by
  unfold number?
  constructor
  · intro h
    simp only [Option.ite_none_left_eq_some, Option.ite_none_right_eq_some, not_or, not_and,
      Decidable.not_not, List.isEmpty_iff, Option.some.injEq] at h
    obtain ⟨⟨hne, hnumeric⟩, hzero, hle, rfl⟩ := h
    exact ⟨hle, (toDigits_digitsValue hne (isNumeric_iff.mp hnumeric) hzero).symm⟩
  · rintro ⟨hle, rfl⟩
    have hnumeric : isNumeric (digits n) = true :=
      isNumeric_iff.mpr fun c => isDigit_of_mem_toDigits
    have hvalue : digitsValue (digits n) = n := digitsValue_toDigits n
    have hzero : (digits n).head? = some '0' → (digits n).length = 1 := hasNoLeadingZero_toDigits n
    rw [if_neg (by simp [hnumeric, digits_ne_nil]), if_neg (by simpa using hzero), hvalue,
      if_pos hle]

/-! ### Identifiers -/

/-- Whether a text is an identifier. -/
structure IsIdentifier (p : List Char) : Prop where
  ne_nil : p ≠ []
  isIdentifierChar : ∀ c ∈ p, isIdentifierChar c = true

/-- Whether a text is an identifier of a pre-release: a number among them has no leading zeros. -/
structure IsPreReleaseIdentifier (p : List Char) : Prop extends IsIdentifier p where
  hasNoLeadingZero : isNumeric p = true → HasNoLeadingZero p

/-- A character that identifiers do not have is in none. -/
theorem IsIdentifier.not_mem {p : List Char} (h : IsIdentifier p) {c : Char}
    (hc : Version.isIdentifierChar c = false) : c ∉ p := by
  intro hmem
  rw [h.isIdentifierChar c hmem] at hc
  cases hc

/-- Identifiers with dots between them. -/
def joined (identifiers : List (List Char)) : List Char := ['.'].intercalate identifiers

/-- What is written behind a mark, if anything is. -/
def behind (mark : Char) : Option (List Char) → List Char
  | none => []
  | some cs => mark :: cs

/-- Identifiers, if there are any, with dots between them. -/
def joined? (identifiers : List (List Char)) : Option (List Char) :=
  if identifiers = [] then none else some (joined identifiers)

/-- A text is read as identifiers if it is them with dots between. -/
theorem identifiers?_eq_some_iff {cs : List Char} {parts : List (List Char)} :
    identifiers? cs = some parts ↔
      parts ≠ [] ∧ (∀ p ∈ parts, IsIdentifier p) ∧ joined parts = cs := by
  unfold identifiers?
  simp only [Option.ite_none_right_eq_some, Option.some.injEq, List.all_eq_true,
    Bool.and_eq_true, Bool.not_eq_true', List.isEmpty_eq_false_iff]
  constructor
  · rintro ⟨hall, hsplit⟩
    obtain ⟨hne, -, hjoined⟩ := splitOn_eq_iff.mp hsplit
    rw [hsplit] at hall
    exact ⟨hne, fun p hp => ⟨(hall p hp).1, (hall p hp).2⟩, hjoined⟩
  · rintro ⟨hne, hparts, hjoined⟩
    have hsplit : cs.splitOn '.' = parts :=
      splitOn_eq_iff.mpr ⟨hne, fun p hp => (hparts p hp).not_mem (by decide), hjoined⟩
    rw [hsplit]
    exact ⟨fun p hp => ⟨(hparts p hp).ne_nil, (hparts p hp).isIdentifierChar⟩, rfl⟩

/-- A text is read as a pre-release if it is its identifiers with dots between. -/
theorem preRelease?_eq_some_iff {cs : List Char} {parts : List (List Char)} :
    preRelease? cs = some parts ↔
      parts ≠ [] ∧ (∀ p ∈ parts, IsPreReleaseIdentifier p) ∧ joined parts = cs := by
  -- the condition under which a text is refused, for one identifier
  have hzero : ∀ p : List Char, (isNumeric p && p.length ≠ 1 && p.head? == some '0') = true ↔
      ¬ (isNumeric p = true → HasNoLeadingZero p) := by
    intro p
    simp only [HasNoLeadingZero, Bool.and_eq_true, decide_eq_true_eq, beq_iff_eq]
    tauto
  unfold preRelease?
  simp only [Option.bind_eq_bind, Option.bind_eq_some_iff, identifiers?_eq_some_iff,
    Option.ite_none_left_eq_some, Option.some.injEq, List.any_eq_true, not_exists, not_and, hzero,
    not_not]
  constructor
  · rintro ⟨_, ⟨hne, hparts, hjoined⟩, hzeros, rfl⟩
    exact ⟨hne, fun p hp => ⟨hparts p hp, hzeros p hp⟩, hjoined⟩
  · rintro ⟨hne, hparts, hjoined⟩
    exact ⟨parts, ⟨hne, fun p hp => (hparts p hp).toIsIdentifier, hjoined⟩,
      fun p hp => (hparts p hp).hasNoLeadingZero, rfl⟩

/-- Identifiers that may be missing. -/
theorem readOptional_eq_some_iff {read : List Char → Option (List (List Char))}
    {P : List Char → Prop} (hread : ∀ cs parts, read cs = some parts ↔
      parts ≠ [] ∧ (∀ p ∈ parts, P p) ∧ joined parts = cs)
    {text : Option (List Char)} {parts : List (List Char)} :
    readOptional read text = some parts ↔ (∀ p ∈ parts, P p) ∧ text = joined? parts := by
  unfold joined?
  cases text with
  | none =>
    simp only [readOptional, Option.some.injEq]
    constructor
    · rintro rfl
      exact ⟨fun p hp => absurd hp List.not_mem_nil, rfl⟩
    · rintro ⟨-, hnone⟩
      split at hnone
      next h => exact h.symm
      next => cases hnone
  | some cs =>
    rw [readOptional, hread]
    constructor
    · rintro ⟨hne, hparts, rfl⟩
      exact ⟨hparts, by rw [if_neg hne]⟩
    · rintro ⟨hparts, hsome⟩
      split at hsome
      next => cases hsome
      next h => exact ⟨h, hparts, (Option.some.inj hsome).symm⟩

/-! ### Cutting a text -/

/-- What it means that a text is cut at the first occurrence of a character. -/
theorem cut_eq_iff {c : Char} {cs before : List Char} {after : Option (List Char)} :
    cut c cs = (before, after) ↔ c ∉ before ∧ cs = before ++ behind c after := by
  unfold cut
  constructor
  · intro h
    have hbefore : c ∉ cs.takeWhile (· ≠ c) := by
      intro hc
      simpa using List.mem_takeWhile_imp hc
    have hwhole : cs.takeWhile (· ≠ c) ++ cs.dropWhile (· ≠ c) = cs :=
      List.takeWhile_append_dropWhile
    have hnext := List.head?_dropWhile_not (· ≠ c) cs
    split at h
    next hnil =>
      rw [hnil, List.append_nil] at hwhole
      cases h
      rw [hwhole] at hbefore
      exact ⟨hbefore, (List.append_nil _).symm⟩
    next d rest hcons =>
      rw [hcons] at hwhole hnext
      have hd : d = c := by simpa using hnext
      rw [hd] at hwhole
      cases h
      exact ⟨hbefore, hwhole.symm⟩
  · rintro ⟨hbefore, rfl⟩
    have hskip : ∀ d ∈ before, decide (d ≠ c) = true := fun d hd =>
      decide_eq_true fun heq => hbefore (heq ▸ hd)
    rw [List.dropWhile_append_of_pos hskip, List.takeWhile_append_of_pos hskip]
    cases after with
    | none => simp [behind]
    | some rest => simp [behind]

/-- A character of joined identifiers is a dot or in one of them. -/
theorem mem_joined {c : Char} {parts : List (List Char)} (h : c ∈ joined parts) :
    c = '.' ∨ ∃ p ∈ parts, c ∈ p := by
  induction parts with
  | nil => exact nomatch h
  | cons p parts ih =>
    cases parts with
    | nil =>
      have hp : c ∈ p := by simpa [joined] using h
      exact .inr ⟨p, List.mem_cons_self, hp⟩
    | cons q parts =>
      simp only [joined, List.intercalate_cons_cons, List.mem_append, List.mem_singleton] at h
      rcases h with (hp | hdot) | hrest
      · exact .inr ⟨p, List.mem_cons_self, hp⟩
      · exact .inl hdot
      · exact (ih hrest).imp_right fun ⟨q, hq, hc⟩ => ⟨q, List.mem_cons_of_mem _ hq, hc⟩

/-! ### Strict versions -/

/-- The numbers of a version as they are written. -/
def numbers (v : Version) : List (List Char) := [digits v.major, digits v.minor, digits v.patch]

/-- What is written of a version. -/
def text (v : Version) : List Char :=
  joined v.numbers ++ behind '-' (joined? v.preRelease) ++ behind '+' (joined? v.build)

/-- Whether a version is one of the strict grammar. -/
structure IsStrict (v : Version) : Prop where
  major_le : v.major ≤ maxNumber
  minor_le : v.minor ≤ maxNumber
  patch_le : v.patch ≤ maxNumber
  preRelease : ∀ p ∈ v.preRelease, IsPreReleaseIdentifier p
  build : ∀ p ∈ v.build, IsIdentifier p

/-- Only digits and dots are written of the numbers of a version. -/
theorem not_mem_joined_numbers {c : Char} (hc : c.isDigit = false) (hdot : c ≠ '.') (v : Version) :
    c ∉ joined v.numbers := by
  intro h
  rcases mem_joined h with rfl | ⟨p, hp, hcp⟩
  · exact hdot rfl
  · simp only [numbers, List.mem_cons, List.not_mem_nil, or_false] at hp
    rcases hp with rfl | rfl | rfl <;> exact not_mem_digits hc _ hcp

/-- Behind a mark there is only what identifiers have, and dots. -/
theorem not_mem_behind {mark c : Char} (hmark : c ≠ mark) (hc : Version.isIdentifierChar c = false)
    (hdot : c ≠ '.') {parts : List (List Char)} (h : ∀ p ∈ parts, IsIdentifier p) :
    c ∉ behind mark (joined? parts) := by
  unfold joined?
  split
  · exact List.not_mem_nil
  · intro hmem
    rcases List.mem_cons.mp hmem with rfl | hmem
    · exact hmark rfl
    · rcases mem_joined hmem with rfl | ⟨p, hp, hcp⟩
      · exact hdot rfl
      · exact (h p hp).not_mem hc hcp

/-- A strict version is read of what is written of it, and of nothing else. -/
theorem ofStrict?_eq_some_iff {cs : List Char} {v : Version} :
    ofStrict? cs = some v ↔ v.IsStrict ∧ cs = v.text := by
  constructor
  · intro h
    unfold ofStrict? at h
    -- the build is cut off first, since a pre-release may not have a plus sign but a build may have
    -- hyphens
    rcases hcut : cut '+' cs with ⟨rest, build⟩
    rcases hcut' : cut '-' rest with ⟨numbers, preRelease⟩
    simp only [hcut, hcut'] at h
    split at h
    next major minor patch hsplit =>
      simp only [Option.bind_eq_bind, Option.bind_eq_some_iff, Option.some.injEq,
        number?_eq_some_iff, readOptional_eq_some_iff @preRelease?_eq_some_iff,
        readOptional_eq_some_iff @identifiers?_eq_some_iff] at h
      obtain ⟨_, ⟨hmajor, rfl⟩, _, ⟨hminor, rfl⟩, _, ⟨hpatch, rfl⟩, _, ⟨hpre, rfl⟩, _,
        ⟨hbuild, rfl⟩, rfl⟩ := h
      obtain ⟨-, rfl⟩ := cut_eq_iff.mp hcut
      obtain ⟨-, rfl⟩ := cut_eq_iff.mp hcut'
      obtain ⟨-, -, rfl⟩ := splitOn_eq_iff.mp hsplit
      exact ⟨⟨hmajor, hminor, hpatch, hpre, hbuild⟩, rfl⟩
    next => cases h
  · rintro ⟨hv, rfl⟩
    have hbuild : cut '+' v.text =
        (joined v.numbers ++ behind '-' (joined? v.preRelease), joined? v.build) := by
      refine cut_eq_iff.mpr ⟨?_, rfl⟩
      rw [List.mem_append, not_or]
      exact ⟨not_mem_joined_numbers (by decide) (by decide) v,
        not_mem_behind (by decide) (by decide) (by decide) fun p hp =>
          (hv.preRelease p hp).toIsIdentifier⟩
    have hpre : cut '-' (joined v.numbers ++ behind '-' (joined? v.preRelease)) =
        (joined v.numbers, joined? v.preRelease) :=
      cut_eq_iff.mpr ⟨not_mem_joined_numbers (by decide) (by decide) v, rfl⟩
    have hsplit : (joined v.numbers).splitOn '.' = v.numbers := by
      refine splitOn_eq_iff.mpr ⟨by simp [numbers], fun p hp => ?_, rfl⟩
      simp only [numbers, List.mem_cons, List.not_mem_nil, or_false] at hp
      rcases hp with rfl | rfl | rfl <;> exact not_mem_digits (by decide) _
    unfold ofStrict?
    simp only [hbuild, hpre, hsplit]
    simp only [numbers, Option.bind_eq_bind, Option.bind_eq_some_iff, Option.some.injEq,
      number?_eq_some_iff, readOptional_eq_some_iff @preRelease?_eq_some_iff,
      readOptional_eq_some_iff @identifiers?_eq_some_iff]
    exact ⟨_, ⟨hv.major_le, rfl⟩, _, ⟨hv.minor_le, rfl⟩, _, ⟨hv.patch_le, rfl⟩, _,
      ⟨hv.preRelease, rfl⟩, _, ⟨hv.build, rfl⟩, rfl⟩

/-! ### Shorthands -/

/-- What is left of a text without the white space around it and then the letters `v` before it. -/
def stem (s : String) : List Char := (trim s.toList).dropWhile (· == 'v')

/-- Which texts denote a version: what is written of a strict one, a number that stands for a
version without further numbers, and two numbers with a dot between them. -/
inductive Denotes : List Char → Version → Prop
  /-- The strict grammar. -/
  | strict {v : Version} (h : v.IsStrict) : Denotes v.text v
  /-- A number alone. -/
  | major {n : Nat} (h : n ≤ maxNumber) : Denotes (digits n) ⟨n, 0, 0, [], []⟩
  /-- Two numbers. -/
  | minor {m n : Nat} (hm : m ≤ maxNumber) (hn : n ≤ maxNumber) :
    Denotes (digits m ++ '.' :: digits n) ⟨m, n, 0, [], []⟩

/-- There is no dot in a number. -/
theorem count_digits (n : Nat) : (digits n).count '.' = 0 :=
  List.count_eq_zero.mpr (not_mem_digits (by decide) n)

/-- What is written of a version, piece by piece. -/
theorem text_eq (v : Version) :
    v.text = digits v.major ++ '.' :: (digits v.minor ++ '.' :: (digits v.patch ++
      (behind '-' (joined? v.preRelease) ++ behind '+' (joined? v.build)))) := by
  simp [text, numbers, joined, List.intercalate_cons_cons]

/-- A text with fewer than two dots is no strict version. -/
theorem ofStrict?_of_count_lt {cs : List Char} (h : cs.count '.' < 2) : ofStrict? cs = none := by
  rw [Option.eq_none_iff_forall_ne_some]
  rintro v hv
  obtain ⟨-, rfl⟩ := ofStrict?_eq_some_iff.mp hv
  rw [text_eq] at h
  simp only [List.count_append, List.count_cons_self] at h
  omega

/-- The only number of which a zero is written, with nothing behind it, is zero. -/
theorem eq_zero_of_digits_append {n : Nat} {rest : List Char} (h : digits n ++ rest = ['0']) :
    n = 0 ∧ rest = [] := by
  obtain ⟨c, cs, hdigits⟩ := List.exists_cons_of_ne_nil (digits_ne_nil n)
  rw [hdigits, List.cons_append, List.cons.injEq, List.append_eq_nil_iff] at h
  obtain ⟨rfl, rfl, rfl⟩ := h
  exact ⟨eq_zero_of_head?_toDigits (n := n) (by rw [← digits, hdigits]; rfl), rfl⟩

/-- If nothing is behind a mark there are no identifiers. -/
theorem eq_nil_of_behind_eq_nil {mark : Char} {parts : List (List Char)}
    (h : behind mark (joined? parts) = []) : parts = [] := by
  unfold joined? at h
  split at h
  next hparts => exact hparts
  next => cases h

/-- Two texts without dots that a zero completes are numbers, without a pre-release or a build. -/
theorem ofStrict?_completed {a b : List Char} (ha : '.' ∉ a) (hb : '.' ∉ b) {v : Version} :
    ofStrict? (a ++ '.' :: (b ++ ['.', '0'])) = some v ↔
      ∃ m n, (m ≤ maxNumber ∧ a = digits m) ∧ (n ≤ maxNumber ∧ b = digits n) ∧
        v = ⟨m, n, 0, [], []⟩ := by
  rw [ofStrict?_eq_some_iff]
  constructor
  · rintro ⟨hv, htext⟩
    rw [text_eq, append_cons_inj ha (not_mem_digits (by decide) _),
      append_cons_inj hb (not_mem_digits (by decide) _)] at htext
    obtain ⟨hmajor, hminor, hrest⟩ := htext
    obtain ⟨hpatch, hmarks⟩ := eq_zero_of_digits_append hrest.symm
    rw [List.append_eq_nil_iff] at hmarks
    obtain ⟨major, minor, patch, preRelease, build⟩ := v
    have hpre : preRelease = [] := eq_nil_of_behind_eq_nil hmarks.1
    have hbuild : build = [] := eq_nil_of_behind_eq_nil hmarks.2
    cases hpatch
    rw [hpre, hbuild]
    exact ⟨major, minor, ⟨hv.major_le, hmajor⟩, ⟨hv.minor_le, hminor⟩, rfl⟩
  · rintro ⟨m, n, ⟨hm, rfl⟩, ⟨hn, rfl⟩, rfl⟩
    refine ⟨⟨hm, hn, Nat.zero_le _, by simp, by simp⟩, ?_⟩
    rw [text_eq]
    simp [joined?, behind, digits]

/-- A text is read as its stem is, strictly or as a shorthand by the number of its dots. -/
theorem ofText?_eq (s : String) :
    ofText? s = (ofStrict? (stem s)).or
      (if (stem s).count '.' = 0 then ofStrict? (stem s ++ ['.', '0', '.', '0'])
        else if (stem s).count '.' = 1 then ofStrict? (stem s ++ ['.', '0'])
        else none) := by
  unfold ofText? stem
  simp only
  generalize (trim s.toList).dropWhile (· == 'v') = cs
  cases ofStrict? cs with
  | some v => rfl
  | none => rcases cs.count '.' with _ | _ | n <;> rfl

/-- A text with one dot is two pieces without any. -/
theorem exists_of_count_eq_one {cs : List Char} (h : cs.count '.' = 1) :
    ∃ a b, cs = a ++ '.' :: b ∧ '.' ∉ a ∧ '.' ∉ b := by
  obtain ⟨a, b, rfl⟩ := List.append_of_mem (List.count_pos_iff.mp (h ▸ Nat.one_pos))
  rw [List.count_append, List.count_cons_self] at h
  exact ⟨a, b, rfl, List.count_eq_zero.mp (by omega), List.count_eq_zero.mp (by omega)⟩

/-- Where a pre-release or a build begins, a text that denotes a version has had all its numbers. -/
theorem two_le_count_of_denotes {lead rest : List Char} {mark : Char} {v : Version}
    (h : Denotes (lead ++ mark :: rest) v) (hmark : mark = '-' ∨ mark = '+') :
    2 ≤ lead.count '.' := by
  have hdigit : mark.isDigit = false := by rcases hmark with rfl | rfl <;> decide
  have hdot : mark ≠ '.' := by rcases hmark with rfl | rfl <;> decide
  have hmem : mark ∈ lead ++ mark :: rest := List.mem_append_right _ List.mem_cons_self
  generalize htext : lead ++ mark :: rest = cs at h hmem
  cases h with
  | strict h =>
    have hcount : (joined v.numbers).count '.' = 2 := by
      simp [numbers, joined, List.intercalate_cons_cons, count_digits]
    rw [text, List.append_assoc, List.append_eq_append_iff] at htext
    rcases htext with ⟨lacking, hlead, hrest⟩ | ⟨more, hlead, -⟩
    · cases lacking with
      | nil => rw [← hcount, hlead, List.append_nil]
      | cons c lacking =>
        -- the mark would be one of the characters of the numbers
        obtain ⟨rfl, -⟩ := List.cons.inj hrest
        refine absurd ?_ (not_mem_joined_numbers hdigit hdot v)
        rw [hlead]
        exact List.mem_append_right _ List.mem_cons_self
    · rw [hlead, List.count_append, hcount]
      exact Nat.le_add_right _ _
  | major => exact absurd hmem (not_mem_digits hdigit _)
  | minor =>
    rw [List.mem_append, List.mem_cons] at hmem
    rcases hmem with h | h | h
    · exact absurd h (not_mem_digits hdigit _)
    · exact absurd h hdot
    · exact absurd h (not_mem_digits hdigit _)

/-- What a text denotes is read of it, and nothing is read of any other text. -/
theorem ofText?_eq_some_iff (s : String) (v : Version) :
    ofText? s = some v ↔ Denotes (stem s) v := by
  rw [ofText?_eq]
  generalize stem s = cs
  constructor
  · intro h
    rcases Option.or_eq_some_iff.mp h with hstrict | ⟨-, hcompleted⟩
    · obtain ⟨hv, rfl⟩ := ofStrict?_eq_some_iff.mp hstrict
      exact .strict hv
    · split at hcompleted
      next hcount =>
        -- the number is everything before the zeros that were put behind it
        have hdot : '.' ∉ cs := List.count_eq_zero.mp hcount
        obtain ⟨m, n, ⟨hm, rfl⟩, ⟨-, hzero⟩, rfl⟩ :=
          (ofStrict?_completed hdot (b := ['0']) (by decide)).mp hcompleted
        obtain ⟨rfl, -⟩ := eq_zero_of_digits_append ((List.append_nil _).trans hzero.symm)
        exact .major hm
      next =>
        rw [Option.ite_none_right_eq_some] at hcompleted
        obtain ⟨hcount, hcompleted⟩ := hcompleted
        obtain ⟨a, b, rfl, ha, hb⟩ := exists_of_count_eq_one hcount
        rw [List.append_assoc, List.cons_append] at hcompleted
        obtain ⟨m, n, ⟨hm, rfl⟩, ⟨hn, rfl⟩, rfl⟩ := (ofStrict?_completed ha hb).mp hcompleted
        exact .minor hm hn
  · intro h
    cases h with
    | strict h => rw [ofStrict?_eq_some_iff.mpr ⟨h, rfl⟩, Option.some_or]
    | @major n h =>
      have hcompleted := (ofStrict?_completed (v := ⟨n, 0, 0, [], []⟩) (b := ['0'])
        (not_mem_digits (by decide) n) (by decide)).mpr ⟨n, 0, ⟨h, rfl⟩, ⟨Nat.zero_le _, rfl⟩, rfl⟩
      rw [ofStrict?_of_count_lt (by rw [count_digits]; decide), Option.none_or, count_digits]
      exact hcompleted
    | @minor m n hm hn =>
      have hcount : (digits m ++ '.' :: digits n).count '.' = 1 := by
        rw [List.count_append, List.count_cons_self, count_digits, count_digits]
      have hcompleted := (ofStrict?_completed (v := ⟨m, n, 0, [], []⟩)
        (not_mem_digits (by decide) m) (not_mem_digits (by decide) n)).mpr
        ⟨m, n, ⟨hm, rfl⟩, ⟨hn, rfl⟩, rfl⟩
      rw [ofStrict?_of_count_lt (by rw [hcount]; decide), Option.none_or, hcount]
      simpa using hcompleted

/-- A text denotes a version exactly if it is, without the white space around it and the letters
`v` before it, what is written of a strict version, of its major number if the others are zero, or
of its first two numbers if the third is zero. With fewer than two dots before the mark of a
pre-release or of a build it denotes no version. -/
theorem read_by_grammar (s : String) :
    (∀ v, ofText? s = some v ↔ Denotes (stem s) v) ∧
      ∀ lead mark rest, stem s = lead ++ mark :: rest → (mark = '-' ∨ mark = '+') →
        lead.count '.' < 2 → ofText? s = none := by
  refine ⟨ofText?_eq_some_iff s, fun lead mark rest hstem hmark hcount => ?_⟩
  rw [Option.eq_none_iff_forall_ne_some]
  intro v hv
  have hdenotes := (ofText?_eq_some_iff s v).mp hv
  rw [hstem] at hdenotes
  exact absurd (two_le_count_of_denotes hdenotes hmark) (Nat.not_le.mpr hcount)

/-- A shorthand is completed, but not one with a pre-release, even if that has the dots that the
numbers lack. -/
theorem read_by_grammar_shorthand :
    ofText? " v1.2 " = some ⟨1, 2, 0, [], []⟩ ∧
      stem "v1.2-rc.1" = "1.2".toList ++ '-' :: "rc.1".toList ∧ ofText? "v1.2-rc.1" = none := by
  have hstem : stem "v1.2-rc.1" = "1.2".toList ++ '-' :: "rc.1".toList := by decide +kernel
  have hshort : Denotes (stem " v1.2 ") ⟨1, 2, 0, [], []⟩ := by
    have hwritten : stem " v1.2 " = digits 1 ++ '.' :: digits 2 := by decide +kernel
    rw [hwritten]
    exact .minor (by decide) (by decide)
  exact ⟨((read_by_grammar " v1.2 ").1 _).mpr hshort, hstem,
    (read_by_grammar "v1.2-rc.1").2 _ _ _ hstem (.inl rfl) (by decide)⟩

end FeatureFlags.Version
