/-
TopologyExporter/GoString.lean

Go's string operations, on the characters of a text.

The first part has the laws by which a text is taken apart and found again:
`split` undoes joining (`split_intercalate`), `contains` looks for a word on
either side of a separator (`infix_append_cons_iff`), and `trimFunc` removes
padding only (`trimFunc_padded`).

`parseInt` follows `strconv.ParseInt(s, 10, 64)`, including the value that is
returned next to an error: zero on a malformed text, the nearest bound on one
that is out of range; `atoi` returns the error's text instead.  `parseInt_repr`
is its inverse law on printed naturals, `parseInt_digits` that on digit strings,
and `integerText_of_parseInt` says that nothing else is read.
-/
import Mathlib.Algebra.Ring.Int.Defs
import Mathlib.Algebra.Ring.Nat
import Mathlib.Data.List.Infix
import Mathlib.Data.List.TakeWhile

namespace GoString

/-! ### Parts of a text -/

/-- `strings.HasPrefix(s, p)`. -/
def hasPrefix (s p : String) : Bool := p.toList.isPrefixOf s.toList

/-- `strings.Split(s, sep)`, for a separator of one character. -/
def split (s : String) (sep : Char) : List String := (s.toList.splitOn sep).map String.ofList

/-- `strings.Contains(s, sub)`. -/
def contains (s sub : String) : Bool := s.toList.tails.any fun t => sub.toList.isPrefixOf t

/-- `strings.TrimFunc(s, p)`. -/
def trimFunc (s : String) (p : Char → Bool) : String :=
  String.ofList ((s.toList.dropWhile p).reverse.dropWhile p).reverse

/-- `strings.Trim(s, cutset)`. -/
def trim (s cutset : String) : String := trimFunc s fun c => c ∈ cutset.toList

/-- `unicode.IsSpace`. -/
def isSpace (c : Char) : Bool :=
  c.toNat ∈ [9, 10, 11, 12, 13, 32, 0x85, 0xA0, 0x1680, 0x2028, 0x2029, 0x202F, 0x205F, 0x3000]
    || (0x2000 ≤ c.toNat && c.toNat ≤ 0x200A)

/-- `strings.TrimSpace(s)`. -/
def trimSpace (s : String) : String := trimFunc s isSpace

/-- The text of `%q`.  Of the escapes, those of quotes, backslashes and the usual
control characters. -/
def quote (s : String) : String :=
  let escape : Char → List Char := fun c =>
    if c = '"' ∨ c = '\\' then ['\\', c]
    else if c = '\n' then ['\\', 'n']
    else if c = '\t' then ['\\', 't']
    else if c = '\r' then ['\\', 'r']
    else [c]
  String.ofList ('"' :: s.toList.flatMap escape ++ ['"'])

theorem hasPrefix_iff {s p : String} : hasPrefix s p = true ↔ p.toList <+: s.toList :=
  List.isPrefixOf_iff_prefix

theorem hasPrefix_append (s t : String) : hasPrefix (s ++ t) s = true := by
  rw [hasPrefix_iff, String.toList_append]
  exact List.prefix_append _ _

/-- A common beginning can be left out. -/
theorem hasPrefix_append_append (a s t : String) : hasPrefix (a ++ s) (a ++ t) = hasPrefix s t := by
  rw [Bool.eq_iff_iff, hasPrefix_iff, hasPrefix_iff, String.toList_append, String.toList_append,
    List.prefix_append_right_inj]

theorem hasPrefix_trans {s t u : String} (h : hasPrefix s t = true) (h' : hasPrefix t u = true) :
    hasPrefix s u = true := by
  rw [hasPrefix_iff] at *
  exact h'.trans h

/-! ### Splitting -/

theorem split_of_notMem {s : String} {sep : Char} (h : sep ∉ s.toList) : split s sep = [s] := by
  rw [split, List.splitOn_eq_singleton h, List.map_singleton, String.ofList_toList]

theorem split_append_cons {a : List Char} {sep : Char} (h : sep ∉ a) (b : List Char) :
    split (String.ofList (a ++ sep :: b)) sep = String.ofList a :: split (String.ofList b) sep := by
  rw [split, split, String.toList_ofList, String.toList_ofList,
    List.splitOn_append_cons_self_of_not_mem h, List.map_cons]

/-- The parts of a text, put together again. -/
theorem intercalate_split (s : String) (sep : Char) :
    [sep].intercalate ((split s sep).map String.toList) = s.toList := by
  have hparts : (split s sep).map String.toList = s.toList.splitOn sep := by
    rw [split, List.map_map]
    exact List.map_id'' (fun _ => String.toList_ofList) _
  rw [hparts, List.intercalate_splitOn]

/-- Lines that are joined are found again. -/
theorem split_intercalate {l : List String} {sep : Char} (h : ∀ s ∈ l, sep ∉ s.toList)
    (hne : l ≠ []) :
    split (String.ofList ([sep].intercalate (l.map String.toList))) sep = l := by
  have hno : ∀ cs ∈ l.map String.toList, sep ∉ cs := by
    intro cs hcs
    obtain ⟨s, hs, rfl⟩ := List.mem_map.mp hcs
    exact h s hs
  rw [split, String.toList_ofList,
    List.splitOn_intercalate sep hno fun hnil => hne (List.map_eq_nil_iff.mp hnil), List.map_map]
  exact List.map_id'' (fun _ => String.ofList_toList) _

/-- No part has the separator in it. -/
theorem notMem_of_mem_splitOn {cs part : List Char} {sep : Char} (h : part ∈ cs.splitOn sep) :
    sep ∉ part := by
  induction cs generalizing part with
  | nil =>
      rw [List.splitOn_nil, List.mem_singleton] at h
      rw [h]
      exact List.not_mem_nil
  | cons c cs ih =>
      rw [List.splitOn_cons_eq_if_modifyHead] at h
      split_ifs at h with hc
      · rcases List.mem_cons.mp h with rfl | hrest
        · exact List.not_mem_nil
        · exact ih hrest
      · cases hparts : cs.splitOn sep with
        | nil =>
            rw [hparts] at h
            exact absurd h List.not_mem_nil
        | cons first rest =>
            rw [hparts] at h ih
            rcases List.mem_cons.mp h with rfl | hrest
            · rintro (- | ⟨-, hmem⟩)
              · exact hc BEq.rfl
              · exact ih List.mem_cons_self hmem
            · exact ih (List.mem_cons_of_mem first hrest)

theorem notMem_of_mem_split {s part : String} {sep : Char} (h : part ∈ split s sep) :
    sep ∉ part.toList := by
  obtain ⟨cs, hcs, rfl⟩ := List.mem_map.mp h
  rw [String.toList_ofList]
  exact notMem_of_mem_splitOn hcs

theorem length_split (s : String) (sep : Char) :
    (split s sep).length = s.toList.count sep + 1 := by
  rw [split, List.length_map]
  induction s.toList with
  | nil => rfl
  | cons c cs ih =>
      rw [List.splitOn_cons_eq_if_modifyHead, List.count_cons]
      split_ifs with hc
      · rw [List.length_cons, ih]
      · rw [List.length_modifyHead, ih, Nat.add_zero]

/-! ### Searching -/

theorem contains_iff {s sub : String} : contains s sub = true ↔ sub.toList <:+: s.toList := by
  rw [contains, List.any_eq_true, List.infix_iff_prefix_suffix]
  refine exists_congr fun t => ?_
  rw [List.mem_tails, List.isPrefixOf_iff_prefix, and_comm]

/-- A word without `c` is found on one side of `c`. -/
theorem infix_append_cons_iff {α : Type} {w a b : List α} {c : α} (h : c ∉ w) :
    w <:+: a ++ c :: b ↔ w <:+: a ∨ w <:+: b := by
  have hstart : ∀ l, l <+: c :: b → c ∉ l → l = [] := by
    intro l hl hc
    rcases List.prefix_cons_iff.mp hl with rfl | ⟨l', rfl, -⟩
    · rfl
    · exact absurd List.mem_cons_self hc
  constructor
  · intro hw
    rcases List.infix_append_iff_ne_nil.mp hw with hw | hw | ⟨l₁, l₂, -, hl₂, rfl, -, hstart₂⟩
    · exact Or.inl hw
    · rcases List.infix_cons_iff.mp hw with hw | hw
      · rw [hstart w hw h]
        exact Or.inl (List.nil_infix)
      · exact Or.inr hw
    · -- the part on the right would begin with `c`
      exact absurd (hstart l₂ hstart₂ fun hc => h (List.mem_append_right l₁ hc)) hl₂
  · rintro (hw | hw)
    · exact List.infix_append_of_infix_left hw
    · exact List.infix_append_of_infix_right (List.infix_cons hw)

/-- A word is not found where its first character does not occur. -/
theorem infix_of_infix_append {α : Type} {x : α} {w a b : List α} (hx : x ∉ a)
    (h : x :: w <:+: a ++ b) : x :: w <:+: b := by
  rcases List.infix_append_iff_ne_nil.mp h with hw | hw | ⟨l₁, l₂, hl₁, -, heq, hsuffix, -⟩
  · exact absurd (hw.subset List.mem_cons_self) hx
  · exact hw
  · -- the part on the left would begin with it
    obtain ⟨y, l, rfl⟩ := List.exists_cons_of_ne_nil hl₁
    obtain ⟨rfl, -⟩ := List.cons.inj heq
    exact absurd (hsuffix.subset List.mem_cons_self) hx

/-! ### Trimming -/

/-- A text neither begins nor ends with a character of `p`. -/
def Trimmed (p : Char → Bool) (cs : List Char) : Prop :=
  (∀ c ∈ cs.head?, p c = false) ∧ ∀ c ∈ cs.getLast?, p c = false

instance (p : Char → Bool) (cs : List Char) : Decidable (Trimmed p cs) :=
  decidable_of_iff
      ((cs.head?.all fun c => !p c) = true ∧ (cs.getLast?.all fun c => !p c) = true) <| by
    rw [Trimmed, Option.all_eq_true, Option.all_eq_true]
    simp only [Bool.not_eq_true', Option.mem_def]

/-- Padding is trimmed, and nothing else is. -/
theorem trimFunc_padded {p : Char → Bool} {pre core post : List Char} (hpre : ∀ c ∈ pre, p c = true)
    (hcore : Trimmed p core) (hpost : ∀ c ∈ post, p c = true) :
    trimFunc (String.ofList (pre ++ (core ++ post))) p = String.ofList core := by
  have hdrop : ∀ cs rest : List Char, cs ≠ [] → (∀ c ∈ cs.head?, p c = false) →
      (cs ++ rest).dropWhile p = cs ++ rest := by
    intro cs rest hne hhead
    obtain ⟨c, cs', rfl⟩ := List.exists_cons_of_ne_nil hne
    exact List.dropWhile_cons_of_neg (Bool.eq_false_iff.mp (hhead c rfl))
  rw [trimFunc, String.toList_ofList, List.dropWhile_append_of_pos hpre]
  by_cases hne : core = []
  · rw [hne, List.nil_append, List.dropWhile_eq_nil_iff.mpr hpost]
    rfl
  · have hlast : ∀ c ∈ core.reverse.head?, p c = false := by
      rw [List.head?_reverse]
      exact hcore.2
    have hpost' : ∀ c ∈ post.reverse, p c = true := fun c hc => hpost c (List.mem_reverse.mp hc)
    have hback := hdrop core.reverse [] (List.reverse_ne_nil_iff.mpr hne) hlast
    rw [List.append_nil] at hback
    rw [hdrop core post hne hcore.1, List.reverse_append, List.dropWhile_append_of_pos hpost',
      hback, List.reverse_reverse]

theorem trimFunc_of_trimmed {p : Char → Bool} {s : String} (h : Trimmed p s.toList) :
    trimFunc s p = s := by
  have hpadded := @trimFunc_padded p [] s.toList [] (fun _ hc => absurd hc List.not_mem_nil) h
    (fun _ hc => absurd hc List.not_mem_nil)
  rwa [List.nil_append, List.append_nil, String.ofList_toList] at hpadded

/-! ### Decimal texts -/

/-- The two failures of a numeric conversion. -/
inductive NumError
  | errSyntax
  | errRange
  deriving DecidableEq, Repr

/-- The digit loop of `strconv.ParseUint(s, 10, 64)`.  It stops at the first
character that is not a digit and at the first digit that overflows. -/
def parseUintLoop : List Char → Nat → Nat × Option NumError
  | [], n => (n, none)
  | c :: cs, n =>
      if c.isDigit then
        if 10 * n + (c.toNat - '0'.toNat) < 2 ^ 64 then
          parseUintLoop cs (10 * n + (c.toNat - '0'.toNat))
        else (2 ^ 64 - 1, some .errRange)
      else (0, some .errSyntax)

/-- `strconv.ParseUint(s, 10, 64)`. -/
def parseUint (s : List Char) : Nat × Option NumError :=
  if s = [] then (0, some .errSyntax) else parseUintLoop s 0

/-- The sign test and the signed bounds of `strconv.ParseInt`. -/
def parseSigned (neg : Bool) (digits : List Char) : Int × Option NumError :=
  match parseUint digits with
  | (_, some .errSyntax) => (0, some .errSyntax)
  | (un, e) =>
      if neg then
        if 2 ^ 63 < un then (-2 ^ 63, some .errRange) else (-un, e)
      else if 2 ^ 63 ≤ un then (2 ^ 63 - 1, some .errRange) else (un, e)

/-- `strconv.ParseInt(s, 10, 64)`. -/
def parseInt (s : String) : Int × Option NumError :=
  match s.toList with
  | '+' :: cs => parseSigned false cs
  | '-' :: cs => parseSigned true cs
  | cs => parseSigned false cs

/-- The text of a failed conversion by the function `fn` of `strconv`. -/
def numErrorText (fn s : String) : NumError → String
  | .errSyntax => "strconv." ++ fn ++ ": parsing " ++ quote s ++ ": invalid syntax"
  | .errRange => "strconv." ++ fn ++ ": parsing " ++ quote s ++ ": value out of range"

/-- `strconv.Atoi(s)`. -/
def atoi (s : String) : Except String Int :=
  match parseInt s with
  | (n, none) => .ok n
  | (_, some e) => .error (numErrorText "Atoi" s e)

theorem le_ofDigitChars (cs : List Char) (n : Nat) : n ≤ Nat.ofDigitChars 10 cs n := by
  induction cs generalizing n with
  | nil => simp
  | cons c cs ih =>
      rw [Nat.ofDigitChars_cons]
      exact Nat.le_trans (by omega) (ih _)

/-- A digit string whose value fits is read in full. -/
theorem parseUintLoop_digits (cs : List Char) (n : Nat) (hd : ∀ c ∈ cs, c.isDigit)
    (hlt : Nat.ofDigitChars 10 cs n < 2 ^ 64) :
    parseUintLoop cs n = (Nat.ofDigitChars 10 cs n, none) := by
  induction cs generalizing n with
  | nil => simp [parseUintLoop]
  | cons c cs ih =>
      rw [Nat.ofDigitChars_cons] at hlt ⊢
      have hstep := le_ofDigitChars cs (10 * n + (c.toNat - '0'.toNat))
      rw [parseUintLoop, if_pos (hd c (by simp)), if_pos (Nat.lt_of_le_of_lt hstep hlt)]
      exact ih _ (fun c' hc' => hd c' (by simp [hc'])) hlt

theorem parseUint_toDigits {n : Nat} (h : n < 2 ^ 64) :
    parseUint (Nat.toDigits 10 n) = (n, none) := by
  rw [parseUint, if_neg Nat.toDigits_ne_nil,
    parseUintLoop_digits _ _ (fun c hc => Nat.isDigit_of_mem_toDigits (by decide) (by decide) hc)
      (by simpa using h)]
  simp

/-- Digits carry no sign. -/
theorem parseInt_of_digits {cs : List Char} (hd : ∀ c ∈ cs, c.isDigit = true) :
    parseInt (String.ofList cs) = parseSigned false cs := by
  unfold parseInt
  rw [String.toList_ofList]
  split
  · exact absurd (hd '+' List.mem_cons_self) (by decide)
  · exact absurd (hd '-' List.mem_cons_self) (by decide)
  · rfl

/-- A printed number is read as digits. -/
theorem parseInt_repr_eq (n : Nat) :
    parseInt (Nat.repr n) = parseSigned false (Nat.toDigits 10 n) :=
  parseInt_of_digits fun _ hc => Nat.isDigit_of_mem_toDigits (by decide) (by decide) hc

/-- **Printed sizes are read back**: exactly below `2^63`, and as the largest
`int64` from there on. -/
theorem parseInt_repr {n : Nat} (h : n < 2 ^ 64) :
    parseInt (Nat.repr n)
      = if 2 ^ 63 ≤ n then (2 ^ 63 - 1, some .errRange) else ((n : Int), none) := by
  rw [parseInt_repr_eq, parseSigned, parseUint_toDigits h]
  simp

/-! ### Integers -/

/-- The decimal text of an integer: digits, with or without a sign. -/
def IntegerText (s : String) : Prop :=
  ∃ sign ∈ [[], ['+'], ['-']], ∃ digits, digits ≠ [] ∧ (∀ c ∈ digits, c.isDigit = true)
    ∧ s.toList = sign ++ digits

/-- The characters of an integer. -/
theorem IntegerText.mem {s : String} (h : IntegerText s) {c : Char} (hc : c ∈ s.toList) :
    c ∈ ['+', '-'] ∨ c.isDigit = true := by
  obtain ⟨sign, hsign, digits, -, hd, hs⟩ := h
  rw [hs, List.mem_append] at hc
  rcases hc with hc | hc
  · simp only [List.mem_cons, List.not_mem_nil, or_false] at hsign
    rcases hsign with rfl | rfl | rfl
    · exact absurd hc List.not_mem_nil
    · exact Or.inl (List.mem_cons.mpr (Or.inl (List.mem_singleton.mp hc)))
    · exact Or.inl (List.mem_cons_of_mem _ hc)
  · exact Or.inr (hd c hc)

/-- **Digit strings are read**, with leading zeros or without, if their value fits. -/
theorem parseInt_digits {cs : List Char} (hne : cs ≠ []) (hd : ∀ c ∈ cs, c.isDigit = true)
    (hlt : Nat.ofDigitChars 10 cs 0 < 2 ^ 63) :
    parseInt (String.ofList cs) = ((Nat.ofDigitChars 10 cs 0 : Int), none) := by
  rw [parseInt_of_digits hd, parseSigned, parseUint, if_neg hne,
    parseUintLoop_digits cs 0 hd (by omega)]
  simp only [Bool.false_eq_true, if_false]
  rw [if_neg (by omega)]

theorem digits_of_parseUintLoop {cs : List Char} {n : Nat} (h : (parseUintLoop cs n).2 = none) :
    ∀ c ∈ cs, c.isDigit = true := by
  induction cs generalizing n with
  | nil => exact fun _ hc => absurd hc List.not_mem_nil
  | cons c cs ih =>
      rw [parseUintLoop] at h
      split_ifs at h with hc hlt
      exact List.forall_mem_cons.mpr ⟨hc, ih h⟩

theorem digits_of_parseSigned {neg : Bool} {cs : List Char} (h : (parseSigned neg cs).2 = none) :
    cs ≠ [] ∧ ∀ c ∈ cs, c.isDigit = true := by
  have hnone : (parseUint cs).2 = none := by
    rw [parseSigned] at h
    rcases hu : parseUint cs with ⟨un, - | - | -⟩
    · rfl
    · rw [hu] at h
      cases h
    · rw [hu] at h
      simp only at h
      split_ifs at h
  rw [parseUint] at hnone
  split_ifs at hnone with hne
  exact ⟨hne, digits_of_parseUintLoop hnone⟩

/-- Only integers are read without an error. -/
theorem integerText_of_parseInt {s : String} (h : (parseInt s).2 = none) : IntegerText s := by
  unfold parseInt at h
  split at h
  · rename_i cs hs
    obtain ⟨hne, hd⟩ := digits_of_parseSigned h
    exact ⟨['+'], by simp, cs, hne, hd, hs⟩
  · rename_i cs hs
    obtain ⟨hne, hd⟩ := digits_of_parseSigned h
    exact ⟨['-'], by simp, cs, hne, hd, hs⟩
  · obtain ⟨hne, hd⟩ := digits_of_parseSigned h
    exact ⟨[], by simp, s.toList, hne, hd, rfl⟩

/-! ### Printed numbers -/

theorem toList_repr (n : Nat) : (Nat.repr n).toList = Nat.toDigits 10 n := String.toList_ofList

theorem isDigit_of_mem_repr {n : Nat} {c : Char} (hc : c ∈ (Nat.repr n).toList) : c.isDigit = true := by
  rw [toList_repr] at hc
  exact Nat.isDigit_of_mem_toDigits (by decide) (by decide) hc

/-- The digits of a text that goes on with none. -/
theorem takeWhile_repr_append (n : Nat) (rest : List Char) (hrest : ∀ c ∈ rest.head?, c.isDigit = false) :
    ((Nat.repr n).toList ++ rest).takeWhile (fun c => c.isDigit) = (Nat.repr n).toList := by
  rw [List.takeWhile_append_of_pos fun _ => isDigit_of_mem_repr]
  rcases rest with - | ⟨c, rest⟩
  · simp
  · rw [List.takeWhile_cons_of_neg, List.append_nil]
    simpa using hrest c rfl

/-- A number is found again in front of anything but a digit. -/
theorem repr_append_inj {n n' : Nat} {rest rest' : List Char}
    (hrest : ∀ c ∈ rest.head?, c.isDigit = false) (hrest' : ∀ c ∈ rest'.head?, c.isDigit = false)
    (h : (Nat.repr n).toList ++ rest = (Nat.repr n').toList ++ rest') : n = n' ∧ rest = rest' := by
  have hdigits := congrArg (List.takeWhile fun c => c.isDigit) h
  rw [takeWhile_repr_append n rest hrest, takeWhile_repr_append n' rest' hrest'] at hdigits
  rw [hdigits] at h
  refine ⟨?_, List.append_cancel_left h⟩
  have hvalue := congrArg (fun cs => Nat.ofDigitChars 10 cs 0) hdigits
  simpa [toList_repr] using hvalue

theorem atoi_repr {n : Nat} (h : n < 2 ^ 63) : atoi (Nat.repr n) = .ok n := by
  have hparse := parseInt_repr (n := n) (by omega)
  rw [if_neg (by omega)] at hparse
  rw [atoi, hparse]

theorem isSpace_of_isDigit {c : Char} (h : c.isDigit = true) : isSpace c = false := by
  have hrange : 48 ≤ c.toNat ∧ c.toNat ≤ 57 := by
    rw [Char.isDigit, Bool.and_eq_true, decide_eq_true_eq, decide_eq_true_eq] at h
    exact h
  rw [isSpace, Bool.or_eq_false_iff, decide_eq_false_iff_not, Bool.and_eq_false_iff,
    decide_eq_false_iff_not, decide_eq_false_iff_not]
  refine ⟨?_, .inl (by omega)⟩
  simp only [List.mem_cons, List.not_mem_nil, or_false]
  omega

theorem trimSpace_repr (n : Nat) : trimSpace (Nat.repr n ++ "\n") = Nat.repr n := by
  have hplain : Trimmed isSpace (Nat.repr n).toList :=
    ⟨fun c hc => isSpace_of_isDigit (isDigit_of_mem_repr (List.mem_of_mem_head? hc)),
      fun c hc => isSpace_of_isDigit (isDigit_of_mem_repr (List.mem_of_mem_getLast? hc))⟩
  have hend : ∀ c ∈ ['\n'], isSpace c = true := by
    intro c hc
    rw [List.mem_singleton.mp hc]
    decide
  have htext : Nat.repr n ++ "\n" = String.ofList ([] ++ ((Nat.repr n).toList ++ ['\n'])) := by
    rw [← String.toList_inj, String.toList_append, String.toList_ofList, String.toList_ofList,
      List.nil_append]
  rw [trimSpace, htext, trimFunc_padded (fun _ hc => absurd hc List.not_mem_nil) hplain hend]
  exact String.ofList_toList

end GoString
