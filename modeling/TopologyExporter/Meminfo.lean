/-
TopologyExporter/Meminfo.lean

The total memory in the `meminfo` file of a NUMA node.

The kernel writes one line for each figure,

    Node 0 MemTotal:       32718644 kB

and `readTotalMemoryFromMeminfo` looks for the first line with the word `MemTotal` in
it.  `MeminfoLine` has the lines of such files.  The word can only be found in the key
(`contains_text`): in front of it stand `Node` and a number, after it blanks, digits and
the unit.  The unit is not taken off as a word: `strings.Trim` removes blanks, `k` and
`B` from both ends of the value, in any order and number, so that more is accepted
than the kernel writes.
-/
import TopologyExporter.Sysinfo

namespace TopologyExporter

open GoInt GoString

/-! ### The lines of the file -/

/-- The line of one figure, with or without a unit. -/
structure MeminfoLine where
  node : Nat
  key : String
  blanks : String
  digits : String
  unit : Bool
  key_plain : ':' ∉ key.toList ∧ '\n' ∉ key.toList
  blanks_blank : (blanks.toList.all fun c => c = ' ' || c = '\t') = true
  digits_digit : digits ≠ "" ∧ (digits.toList.all fun c => c.isDigit) = true

namespace MeminfoLine

/-- What stands in front of the key. -/
def front (l : MeminfoLine) : String := "Node " ++ Nat.repr l.node ++ " "

/-- The unit of most figures. -/
def unitText (l : MeminfoLine) : String := if l.unit then " kB" else ""

/-- What stands after the colon. -/
def back (l : MeminfoLine) : String := l.blanks ++ l.digits ++ l.unitText

/-- The line, without its end. -/
def text (l : MeminfoLine) : String := l.front ++ l.key ++ ":" ++ l.back

/-- The figure. -/
def value (l : MeminfoLine) : Nat := Nat.ofDigitChars 10 l.digits.toList 0

end MeminfoLine

/-- A file of such lines; the last one may have a line end or not. -/
def meminfoText (lines : List MeminfoLine) (lineEnd : Bool) : String :=
  "\n".intercalate (lines.map MeminfoLine.text ++ if lineEnd then [""] else [])

namespace MeminfoLine

variable (l : MeminfoLine)

/-! ### What the parts of a line can hold -/

theorem eq_of_mem_blanks {c : Char} (hc : c ∈ l.blanks.toList) : c = ' ' ∨ c = '\t' := by
  have hblank := List.all_eq_true.mp l.blanks_blank c hc
  rwa [Bool.or_eq_true, decide_eq_true_eq, decide_eq_true_eq] at hblank

theorem isDigit_of_mem_digits {c : Char} (hc : c ∈ l.digits.toList) : c.isDigit = true :=
  List.all_eq_true.mp l.digits_digit.2 c hc

theorem notMem_front {c : Char} (hc : c ∉ "Node ".toList) (hdigit : c.isDigit = false) :
    c ∉ l.front.toList := by
  intro hmem
  rw [front, String.toList_append, String.toList_append, List.mem_append, List.mem_append] at hmem
  rcases hmem with (hmem | hmem) | hmem
  · exact hc hmem
  · have hrepr : (Nat.repr l.node).toList = Nat.toDigits 10 l.node := String.toList_ofList
    rw [hrepr] at hmem
    rw [Nat.isDigit_of_mem_toDigits (by decide) (by decide) hmem] at hdigit
    cases hdigit
  · rw [List.mem_singleton.mp hmem] at hc
    exact hc (by decide)

theorem mem_unitText {c : Char} (hc : c ∈ l.unitText.toList) : c ∈ " kB".toList := by
  rw [unitText] at hc
  split_ifs at hc
  · exact hc
  · exact absurd hc List.not_mem_nil

theorem notMem_back {c : Char} (hc : c ∉ "\t kB".toList) (hdigit : c.isDigit = false) :
    c ∉ l.back.toList := by
  intro hmem
  rw [back, String.toList_append, String.toList_append, List.mem_append, List.mem_append] at hmem
  rcases hmem with (hmem | hmem) | hmem
  · rcases l.eq_of_mem_blanks hmem with rfl | rfl
    · exact hc (by decide)
    · exact hc (by decide)
  · rw [l.isDigit_of_mem_digits hmem] at hdigit
    cases hdigit
  · exact hc (List.mem_cons_of_mem _ (l.mem_unitText hmem))

theorem toList_text : l.text.toList = l.front.toList ++ l.key.toList ++ ':' :: l.back.toList := by
  rw [text, String.toList_append, String.toList_append, String.toList_append, List.append_assoc]
  rfl

/-- A line has no line end in it. -/
theorem newline_notMem_text : '\n' ∉ l.text.toList := by
  rw [toList_text, List.mem_append, List.mem_append, List.mem_cons]
  rintro ((hmem | hmem) | hmem | hmem)
  · exact l.notMem_front (by decide) (by decide) hmem
  · exact l.key_plain.2 hmem
  · cases hmem
  · exact l.notMem_back (by decide) (by decide) hmem

/-- **The word is searched in the key.** -/
theorem contains_text : contains l.text "MemTotal" = contains l.key "MemTotal" := by
  -- the word has no colon, so it lies on one side of it
  rw [Bool.eq_iff_iff, contains_iff, contains_iff, toList_text, infix_append_cons_iff (by decide)]
  constructor
  · rintro (hword | hword)
    · exact infix_of_infix_append (l.notMem_front (by decide) (by decide)) hword
    · -- its `M` does not occur after the colon
      exact absurd (hword.subset List.mem_cons_self) (l.notMem_back (by decide) (by decide))
  · exact fun hword => Or.inl (List.infix_append_of_infix_right hword)

/-! ### Reading a line -/

theorem split_text : split l.text ':' = [l.front ++ l.key, l.back] := by
  have hfront : ':' ∉ l.front.toList ++ l.key.toList := by
    rw [List.mem_append]
    rintro (hmem | hmem)
    · exact l.notMem_front (by decide) (by decide) hmem
    · exact l.key_plain.1 hmem
  have hback : ':' ∉ l.back.toList := l.notMem_back (by decide) (by decide)
  calc split l.text ':'
      = split (String.ofList (l.front.toList ++ l.key.toList ++ ':' :: l.back.toList)) ':' := by
        rw [← toList_text, String.ofList_toList]
    _ = String.ofList (l.front.toList ++ l.key.toList) :: split (String.ofList l.back.toList) ':' :=
        split_append_cons hfront _
    _ = [l.front ++ l.key, l.back] := by
        rw [String.ofList_toList, split_of_notMem hback, ← String.toList_append,
          String.ofList_toList]

/-- The blanks and the unit are trimmed, the digits are not. -/
theorem trim_back : trim l.back "\t\n kB" = l.digits := by
  have hcutset : ("\t\n kB".toList.all fun c => !c.isDigit) = true := by decide
  have hdigit : ∀ c ∈ l.digits.toList, decide (c ∈ "\t\n kB".toList) = false := by
    intro c hc
    rw [decide_eq_false_iff_not]
    intro hcut
    have hnot := List.all_eq_true.mp hcutset c hcut
    rw [l.isDigit_of_mem_digits hc] at hnot
    cases hnot
  have hblank : ∀ c ∈ l.blanks.toList, decide (c ∈ "\t\n kB".toList) = true := by
    intro c hc
    rcases l.eq_of_mem_blanks hc with rfl | rfl
    · decide
    · decide
  have hunit : ∀ c ∈ l.unitText.toList, decide (c ∈ "\t\n kB".toList) = true := by
    intro c hc
    exact decide_eq_true (List.mem_cons_of_mem _ (List.mem_cons_of_mem _ (l.mem_unitText hc)))
  have htrim := trimFunc_padded hblank ⟨fun c hc => hdigit c (List.mem_of_mem_head? hc),
    fun c hc => hdigit c (List.mem_of_mem_getLast? hc)⟩ hunit
  rwa [← String.toList_append, ← String.toList_append, String.ofList_toList, String.ofList_toList,
    ← String.append_assoc] at htrim

theorem totalMemoryOfLine_text (hlt : 1024 * l.value < 2 ^ 63) :
    totalMemoryOfLine l.text = .ok (1024 * l.value) := by
  have hne : l.digits.toList ≠ [] := fun hnil => l.digits_digit.1 (String.toList_eq_nil_iff.mp hnil)
  have hparse : parseInt l.digits = ((l.value : Int), none) := by
    have hlt' : l.value < 2 ^ 63 := by omega
    have hdigits := parseInt_digits hne (fun _ => l.isDigit_of_mem_digits) hlt'
    rwa [String.ofList_toList] at hdigits
  rw [totalMemoryOfLine, split_text]
  simp only [trim_back, hparse]
  rw [wrap_of_inRange ⟨by omega, by omega⟩]

end MeminfoLine

/-! ### Reading the file -/

section File

variable {fs : FileSystem} {path data : String}

/-- The lines of a file are found again. -/
theorem split_meminfoText {lines : List MeminfoLine} (hne : lines ≠ []) (lineEnd : Bool) :
    split (meminfoText lines lineEnd) '\n'
      = lines.map MeminfoLine.text ++ if lineEnd then [""] else [] := by
  have hplain : ∀ line ∈ lines.map MeminfoLine.text ++ (if lineEnd then [""] else []),
      '\n' ∉ line.toList := by
    intro line hline
    rcases List.mem_append.mp hline with hline | hline
    · obtain ⟨l, -, rfl⟩ := List.mem_map.mp hline
      exact l.newline_notMem_text
    · -- the empty line after the last line end
      split_ifs at hline
      · rw [List.mem_singleton.mp hline]
        exact List.not_mem_nil
      · exact absurd hline List.not_mem_nil
  have hne' : lines.map MeminfoLine.text ++ (if lineEnd then [""] else []) ≠ [] :=
    List.append_ne_nil_of_left_ne_nil (fun h => hne (List.map_eq_nil_iff.mp h)) _
  have hsplit := split_intercalate hplain hne'
  have hjoin : (meminfoText lines lineEnd).toList = ['\n'].intercalate
      ((lines.map MeminfoLine.text ++ if lineEnd then [""] else []).map String.toList) :=
    String.toList_intercalate
  rwa [← hjoin, String.ofList_toList] at hsplit

theorem readTotalMemory_eq (hread : fs.readFile path = .ok data) :
    readTotalMemoryFromMeminfo fs path
      = match (split data '\n').find? fun line => contains line "MemTotal" with
        | some line => totalMemoryOfLine line
        | none => .error ("failed to find MemTotal field under the file " ++ quote path) := by
  rw [readTotalMemoryFromMeminfo, hread]
  rfl

/-- The first line with the word decides. -/
theorem readTotalMemory_of_first {pre post : List String} {line : String}
    (hread : fs.readFile path = .ok data) (hsplit : split data '\n' = pre ++ line :: post)
    (hpre : ∀ line ∈ pre, contains line "MemTotal" = false)
    (hline : contains line "MemTotal" = true) :
    readTotalMemoryFromMeminfo fs path = totalMemoryOfLine line := by
  have hfind : (split data '\n').find? (fun line => contains line "MemTotal") = some line := by
    have hnone : pre.find? (fun line => contains line "MemTotal") = none :=
      List.find?_eq_none.mpr fun line hmem => Bool.eq_false_iff.mp (hpre line hmem)
    rw [hsplit, List.find?_append, hnone, Option.none_or]
    exact List.find?_cons_of_pos hline
  rw [readTotalMemory_eq hread, hfind]

/-- Of lines with other keys, that of `MemTotal` is read wherever it stands. -/
theorem readTotalMemory_meminfoText {pre post : List MeminfoLine} {l : MeminfoLine} {lineEnd : Bool}
    (hkey : l.key = "MemTotal") (hothers : ∀ l' ∈ pre, contains l'.key "MemTotal" = false)
    (hlt : 1024 * l.value < 2 ^ 63)
    (hread : fs.readFile path = .ok (meminfoText (pre ++ l :: post) lineEnd)) :
    readTotalMemoryFromMeminfo fs path = .ok (1024 * l.value) := by
  have hne : pre ++ l :: post ≠ [] := List.append_ne_nil_of_right_ne_nil pre (List.cons_ne_nil l post)
  have hsplit := split_meminfoText hne lineEnd
  rw [List.map_append, List.map_cons, List.append_assoc, List.cons_append] at hsplit
  have hpre : ∀ line ∈ pre.map MeminfoLine.text, contains line "MemTotal" = false := by
    intro line hline
    obtain ⟨l', hl', rfl⟩ := List.mem_map.mp hline
    rw [l'.contains_text]
    exact hothers l' hl'
  have hline : contains l.text "MemTotal" = true := by
    rw [l.contains_text, hkey]
    decide
  rw [readTotalMemory_of_first hread hsplit hpre hline]
  exact l.totalMemoryOfLine_text hlt

theorem readTotalMemory_of_none (hread : fs.readFile path = .ok data)
    (hnone : ∀ line ∈ split data '\n', contains line "MemTotal" = false) :
    ∃ err, readTotalMemoryFromMeminfo fs path = .error err := by
  have hfind : (split data '\n').find? (fun line => contains line "MemTotal") = none :=
    List.find?_eq_none.mpr fun line hmem => Bool.eq_false_iff.mp (hnone line hmem)
  rw [readTotalMemory_eq hread, hfind]
  exact ⟨_, rfl⟩

/-- A line from which no figure is read: it has no colon or several, or what follows the
colon is no integer when blanks, tabs, `k` and `B` are taken off its ends. -/
inductive NoFigure (line : String) : Prop
  | colons (h : line.toList.count ':' ≠ 1)
  | value (key value : String) (h : line = key ++ ":" ++ value) (hkey : ':' ∉ key.toList)
      (hvalue : ¬ IntegerText (trim value "\t\n kB"))

/-- The part after the colon, if there is one colon. -/
theorem eq_of_split_pair {line key value key' value' : String} (h : line = key ++ ":" ++ value)
    (hkey : ':' ∉ key.toList) (hsplit : split line ':' = [key', value']) : value' = value := by
  have hline : line = String.ofList (key.toList ++ ':' :: value.toList) := by
    rw [← String.toList_inj, h, String.toList_ofList, String.toList_append, String.toList_append,
      List.append_assoc]
    rfl
  rw [hline, split_append_cons hkey, String.ofList_toList, String.ofList_toList] at hsplit
  obtain ⟨-, hrest⟩ := List.cons.inj hsplit
  have hjoin := intercalate_split value ':'
  rw [hrest, List.map_singleton, List.intercalate_singleton] at hjoin
  exact String.toList_inj.mp hjoin

/-- Nothing is read from such a line. -/
theorem NoFigure.error {line : String} (h : NoFigure line) :
    ∃ err, totalMemoryOfLine line = .error err := by
  rw [totalMemoryOfLine]
  split
  · rename_i key' value' hsplit
    cases h with
    | colons hcount =>
        have hlength := length_split line ':'
        rw [hsplit] at hlength
        exact absurd (Nat.succ.inj hlength).symm hcount
    | value key value hline hkey hvalue =>
        rw [← eq_of_split_pair hline hkey hsplit] at hvalue
        rcases hparse : parseInt (trim value' "\t\n kB") with ⟨n, - | e⟩
        · exact absurd (integerText_of_parseInt (congrArg Prod.snd hparse)) hvalue
        · exact ⟨"failed to convert value: " ++ trim value' "\t\n kB", by simp only [hparse]⟩
  · exact ⟨_, rfl⟩

end File

/-- **The total memory is read.**  From a file with one line for `MemTotal`, among lines
whose keys do not have the word in them, the figure of that line is read, in bytes.  No
figure is read without a line that has the word, nor if the first such line has none. -/
theorem meminfo_total_read (fs : FileSystem) (path : String) :
    (∀ pre l post lineEnd, l.key = "MemTotal" →
        (∀ l' ∈ pre ++ post, contains l'.key "MemTotal" = false) → 1024 * l.value < 2 ^ 63 →
        fs.readFile path = .ok (meminfoText (pre ++ l :: post) lineEnd) →
          readTotalMemoryFromMeminfo fs path = .ok (1024 * l.value))
      ∧ (∀ data, fs.readFile path = .ok data →
          (∀ line ∈ split data '\n', contains line "MemTotal" = false) →
            ∃ err, readTotalMemoryFromMeminfo fs path = .error err)
      ∧ ∀ data pre line post, fs.readFile path = .ok data →
          split data '\n' = pre ++ line :: post →
          (∀ line' ∈ pre, contains line' "MemTotal" = false) → contains line "MemTotal" = true →
          NoFigure line → ∃ err, readTotalMemoryFromMeminfo fs path = .error err := by
  refine ⟨?_, fun data hread hnone => readTotalMemory_of_none hread hnone, ?_⟩
  · intro pre l post lineEnd hkey hothers hlt hread
    -- the lines after the one that is read do not matter
    have hpre : ∀ l' ∈ pre, contains l'.key "MemTotal" = false :=
      fun l' hl' => hothers l' (List.mem_append_left post hl')
    exact readTotalMemory_meminfoText hkey hpre hlt hread
  · intro data pre line post hread hsplit hpre hline hnofigure
    rw [readTotalMemory_of_first hread hsplit hpre hline]
    exact hnofigure.error

/-- A file system in which every file has the same text. -/
def constantFileSystem (data : String) : FileSystem where
  readDir _ := .error "no directory"
  readFile _ := .ok data
  evalSymlinks path := .ok path

/-- A line that the kernel writes. -/
def memTotalLine : MeminfoLine where
  node := 0
  key := "MemTotal"
  blanks := "       "
  digits := "32718644"
  unit := true
  key_plain := by decide
  blanks_blank := by decide
  digits_digit := by decide

/-- A line without a unit. -/
def hugePagesTotalLine : MeminfoLine where
  node := 0
  key := "HugePages_Total"
  blanks := "     "
  digits := "0"
  unit := false
  key_plain := by decide
  blanks_blank := by decide
  digits_digit := by decide

theorem meminfo_total_read_second_line :
    meminfoText [hugePagesTotalLine, memTotalLine] true
        = "Node 0 HugePages_Total:     0\nNode 0 MemTotal:       32718644 kB\n"
      ∧ readTotalMemoryFromMeminfo
          (constantFileSystem (meminfoText [hugePagesTotalLine, memTotalLine] true)) "meminfo"
        = .ok (1024 * 32718644)
      ∧ ∃ err, readTotalMemoryFromMeminfo (constantFileSystem "Node 0 MemTotal: 1.5 kB") "meminfo"
        = .error err := by
  refine ⟨by decide, ?_, ?_⟩
  · exact (meminfo_total_read _ _).1 [hugePagesTotalLine] memTotalLine [] true rfl (by decide)
      (by decide) rfl
  · have hvalue : ¬ IntegerText (trim " 1.5 kB" "\t\n kB") := by
      intro h
      rcases h.mem (show '.' ∈ (trim " 1.5 kB" "\t\n kB").toList by decide) with hsign | hdigit
      · exact absurd hsign (by decide)
      · exact absurd hdigit (by decide)
    exact (meminfo_total_read _ _).2.2 _ [] "Node 0 MemTotal: 1.5 kB" [] rfl (by decide) (by decide)
      (by decide) (.value "Node 0 MemTotal" " 1.5 kB" (by decide) (by decide) hvalue)

/-- A unit in front of the figure is trimmed, too, although `kB12` is no integer. -/
theorem meminfo_reads_unit_in_front :
    (¬ IntegerText "kB12")
      ∧ readTotalMemoryFromMeminfo (constantFileSystem "Node 0 MemTotal: kB12 kB") "meminfo"
        = .ok (1024 * 12) := by
  refine ⟨?_, by decide +kernel⟩
  intro h
  rcases h.mem (show 'k' ∈ "kB12".toList by decide) with hsign | hdigit
  · exact absurd hsign (by decide)
  · exact absurd hdigit (by decide)

end TopologyExporter
