/-
TopologyExporter/ContainerIdents.lean

The text of a reference container, printed and read.

`FromFlags` prints the identity that the files and the environment have given, as the
default of `-reference-container`, and reads the text again when the flags are parsed.
`string_eq` has the text as the three fields joined by `/`.  Reading takes the text apart
at the same place, so it can change the identity only by what it trims
(`ofString_string`), or if a field has a `/` in it.
-/
import TopologyExporter.Precedence

namespace TopologyExporter

open GoString

namespace ContainerIdent

/-! ### Fields and parts -/

/-- The fields of an identity, in the order of its text. -/
def fields (ci : ContainerIdent) : List String := [ci.namespace, ci.podName, ci.containerName]

/-- A field that is found again in the text: no separator in it, no white space around it. -/
structure PlainField (field : String) : Prop where
  no_slash : '/' ∉ field.toList
  trimmed : Trimmed isSpace field.toList

instance (field : String) : Decidable (PlainField field) :=
  decidable_of_iff ('/' ∉ field.toList ∧ Trimmed isSpace field.toList)
    ⟨fun h => ⟨h.1, h.2⟩, fun h => ⟨h.no_slash, h.trimmed⟩⟩

/-- An identity of which all fields are plain; they may be empty. -/
def Plain (ci : ContainerIdent) : Prop := ∀ field ∈ ci.fields, PlainField field

instance (ci : ContainerIdent) : Decidable ci.Plain :=
  inferInstanceAs (Decidable (∀ field ∈ ci.fields, PlainField field))

/-- The identity that three parts of a text are read as. -/
def ofParts (ns podName containerName : String) : ContainerIdent :=
  ⟨trimSpace ns, trimSpace podName, trimSpace containerName⟩

/-- The text is the fields, joined. -/
theorem string_eq (ci : ContainerIdent) :
    string (some ci) = String.ofList (['/'].intercalate (ci.fields.map String.toList)) := by
  rw [← String.toList_inj, String.toList_ofList]
  simp [string, fields, List.intercalate, List.intersperse]

theorem string_ne_empty (ci : ContainerIdent) : string (some ci) ≠ "" := by
  intro h
  have hnil := congrArg String.toList h
  simp [string] at hnil

/-- **What is accepted**: a text of three parts, and the empty text, which stands for
no identity. -/
theorem ofString_eq_ok_iff {s : String} {r : Option ContainerIdent} :
    ofString s = .ok r ↔ s = "" ∧ r = none
      ∨ s ≠ "" ∧ ∃ ns podName containerName, split s '/' = [ns, podName, containerName]
          ∧ r = some (ofParts ns podName containerName) := by
  rw [ofString]
  split_ifs with hs
  · constructor
    · intro h
      cases h
      exact Or.inl ⟨hs, rfl⟩
    · rintro (⟨-, rfl⟩ | ⟨hne, -⟩)
      · rfl
      · exact absurd hs hne
  · constructor
    · intro h
      split at h
      · rename_i ns podName containerName hsplit
        cases h
        exact Or.inr ⟨hs, ns, podName, containerName, hsplit, rfl⟩
      · cases h
    · rintro (⟨hempty, -⟩ | ⟨-, ns, podName, containerName, hsplit, rfl⟩)
      · exact absurd hempty hs
      · rw [hsplit]
        rfl

/-! ### Round trips -/

/-- An identity with plain fields is found again. -/
theorem ofString_string {ci : ContainerIdent} (h : ci.Plain) :
    ofString (string (some ci)) = .ok (some ci) := by
  rw [ofString_eq_ok_iff]
  refine Or.inr ⟨string_ne_empty ci, ci.namespace, ci.podName, ci.containerName, ?_, ?_⟩
  · rw [string_eq]
    exact split_intercalate (fun field hfield => (h field hfield).no_slash) (List.cons_ne_nil _ _)
  · have htrim : ∀ field ∈ ci.fields, trimSpace field = field :=
      fun field hfield => trimFunc_of_trimmed (h field hfield).trimmed
    rw [ofParts, htrim ci.namespace (by simp [fields]), htrim ci.podName (by simp [fields]),
      htrim ci.containerName (by simp [fields])]

/-- A text with trimmed parts is found again. -/
theorem string_of_ofString {s : String} {r : Option ContainerIdent} (h : ofString s = .ok r)
    (htrimmed : ∀ part ∈ split s '/', Trimmed isSpace part.toList) : string r = s := by
  rcases ofString_eq_ok_iff.mp h with ⟨rfl, rfl⟩ | ⟨-, ns, podName, containerName, hsplit, rfl⟩
  · rfl
  · rw [hsplit] at htrimmed
    have hfields : (ofParts ns podName containerName).fields = split s '/' := by
      rw [hsplit]
      show [ns, podName, containerName].map trimSpace = _
      exact (List.map_congr_left fun part hpart => trimFunc_of_trimmed (htrimmed part hpart)).trans
        (List.map_id _)
    rw [string_eq, hfields, intercalate_split, String.ofList_toList]

/-- The number of separators decides whether a text is accepted. -/
theorem ofString_ok_iff (s : String) :
    (∃ r, ofString s = .ok r) ↔ s = "" ∨ s.toList.count '/' = 2 := by
  have hcount : s.toList.count '/' = 2 ↔ ∃ ns podName containerName,
      split s '/' = [ns, podName, containerName] := by
    rw [← List.length_eq_three, length_split]
    omega
  constructor
  · rintro ⟨r, hr⟩
    rcases ofString_eq_ok_iff.mp hr with ⟨hs, -⟩ | ⟨-, ns, podName, containerName, hsplit, -⟩
    · exact Or.inl hs
    · exact Or.inr (hcount.mpr ⟨ns, podName, containerName, hsplit⟩)
  · rintro (rfl | h)
    · exact ⟨none, rfl⟩
    · obtain ⟨ns, podName, containerName, hsplit⟩ := hcount.mp h
      -- there is no separator in the empty text
      have hne : s ≠ "" := by
        rintro rfl
        cases h
      exact ⟨_, ofString_eq_ok_iff.mpr (Or.inr ⟨hne, ns, podName, containerName, hsplit, rfl⟩)⟩

end ContainerIdent

/-! ### The default of the flag -/

/-- Without the flag the identity is printed and read again. -/
theorem ident_of_default {cl : CommandLine} (hflag : cl.referenceContainer = none)
    {current : Option ContainerIdent} (hplain : ∀ ci ∈ current, ci.Plain) :
    cl.ident current = .ok current := by
  rw [CommandLine.ident, hflag]
  show (if ContainerIdent.string current = "" then _ else _) = _
  cases current with
  | none => rfl
  | some ci =>
      rw [if_neg (ContainerIdent.string_ne_empty ci)]
      exact ContainerIdent.ofString_string (hplain ci rfl)

/-- **Identities and their texts.**  Printing and reading are inverse to each other on
plain identities and on accepted texts with trimmed parts; accepted are the empty text
and those with two separators.  A pass over a command line without the flag keeps a
plain identity. -/
theorem container_ident_round_trip :
    (∀ ci : ContainerIdent, ci.Plain →
        ContainerIdent.ofString (ContainerIdent.string (some ci)) = .ok (some ci))
      ∧ (∀ s, ContainerIdent.ofString s = .ok none ↔ s = "")
      ∧ (∀ s, (∃ r, ContainerIdent.ofString s = .ok r) ↔ s = "" ∨ s.toList.count '/' = 2)
      ∧ (∀ s r, ContainerIdent.ofString s = .ok r →
          (∀ part ∈ split s '/', Trimmed isSpace part.toList) → ContainerIdent.string r = s)
      ∧ ∀ (lib : Libraries) (args : List String) (cl : CommandLine) (p : ProgArgs),
          parseCommandLine lib args = .ok cl → cl.referenceContainer = none →
          (∀ ci ∈ p.rte.referenceContainer, ci.Plain) →
            cl.ident p.rte.referenceContainer = .ok p.rte.referenceContainer
            ∧ ∀ r paths, fromFlags lib args p = .ok (r, paths) →
                r.rte.referenceContainer = p.rte.referenceContainer := by
  refine ⟨fun ci h => ContainerIdent.ofString_string h, ?_, ContainerIdent.ofString_ok_iff,
    fun s r h htrimmed => ContainerIdent.string_of_ofString h htrimmed, ?_⟩
  · intro s
    rw [ContainerIdent.ofString_eq_ok_iff]
    constructor
    · rintro (⟨hs, -⟩ | ⟨-, ns, podName, containerName, -, hr⟩)
      · exact hs
      · cases hr
    · exact fun hs => Or.inl ⟨hs, rfl⟩
  · intro lib args cl p hparse hflag hplain
    have hident := ident_of_default hflag hplain
    refine ⟨hident, fun r paths h => ?_⟩
    obtain ⟨⟨ident, hread, rfl⟩, -⟩ := fromFlags_ok hparse h
    rcases hread with hkept | hread
    · -- the version was asked for: the flag is not looked at
      exact hkept
    · exact Except.ok.inj (hread.symm.trans hident)

/-- The pause container of a pod that holds the shared CPUs. -/
def poolIdent : ContainerIdent := ⟨"kube-system", "shared-pool", "pause"⟩

theorem container_ident_round_trip_pool :
    poolIdent.Plain
      ∧ ContainerIdent.ofString (ContainerIdent.string (some poolIdent)) = .ok (some poolIdent)
      ∧ ContainerIdent.string (some poolIdent) = "kube-system/shared-pool/pause"
      ∧ ∃ r paths, fromFlags plainLibraries ["--metrics-port=9100"]
            (ProgArgs.zero.setReferenceContainer (some poolIdent)) = .ok (r, paths)
          ∧ r.rte.referenceContainer = some poolIdent := by
  obtain ⟨hprint, -, -, hread, hflags⟩ := container_ident_round_trip
  have hplain : poolIdent.Plain := by decide
  have hparse : parseCommandLine plainLibraries ["--metrics-port=9100"] = .ok portCommandLine := rfl
  refine ⟨hplain, hprint poolIdent hplain, hread _ _ (by decide) (by decide), _, _, rfl, ?_⟩
  refine (hflags plainLibraries _ _ (ProgArgs.zero.setReferenceContainer (some poolIdent))
    hparse rfl ?_).2 _ _ rfl
  intro ci hci
  cases hci
  exact hplain

-- empty fields are fields; white space is not kept
example : ContainerIdent.ofString "// pause" = .ok (some ⟨"", "", "pause"⟩) := by decide

end TopologyExporter
