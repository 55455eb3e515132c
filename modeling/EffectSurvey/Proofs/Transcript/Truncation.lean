import EffectSurvey.Proofs.Transcript.RoundTrip

/-! Transcripts that are cut off. The metadata row comes last, below a header that nothing else can stand
for, so a transcript that is still accepted has lost nothing but an end of that row. -/
namespace EffectSurvey

theorem Finding.SpelledBy.unique {first second : Finding} {row : String}
    (left : first.SpelledBy row) (right : second.SpelledBy row) : first = second :=
  Except.ok.inj ((Finding.ofRow_eq_ok.mpr left).symm.trans (Finding.ofRow_eq_ok.mpr right))

namespace Transcript
variable {cut lines : List String} {findings cutFindings : List Finding}
  {metadata cutMetadata : MetadataRow}

theorem Body.length_gt (body : Body lines findings metadata) : 2 < lines.length := by
  obtain ⟨rows, blanks, _, _, rfl⟩ := body
  simp only [List.length_append, List.length_cons]
  omega

/-- What is cut off below the header of the metadata leaves a beginning of the row. -/
theorem row_of_cut {row cutRow : String} {blanks cutBlanks : List String}
    (cutOff : Text.CutLines (MetadataRow.header :: cutRow :: cutBlanks)
      (MetadataRow.header :: row :: blanks)) : cutRow.toList <+: row.toList := by
  cases cutOff with
  | cons _ later =>
    cases later with
    | last begins _ => exact begins
    | cons _ _ => exact List.prefix_refl _

theorem Body.of_cut (cutOff : Text.CutLines cut lines) (body : Body lines findings metadata)
    (cutBody : Body cut cutFindings cutMetadata) :
    cutFindings = findings ∧ cutMetadata.text.toList <+: metadata.text.toList := by
  induction cutOff generalizing findings cutFindings with
  | nil lines => exact absurd cutBody.length_gt (by simp)
  | last begins lines => exact absurd cutBody.length_gt (by simp)
  | cons line later ih =>
    by_cases blank : line = ""
    · subst blank
      obtain ⟨rfl, _, _, rfl⟩ := body_blank.mp body
      obtain ⟨rfl, _, _, rfl⟩ := body_blank.mp cutBody
      exact ⟨rfl, row_of_cut later⟩
    · obtain ⟨finding, others, rfl, spelling, body⟩ := (body_row blank).mp body
      obtain ⟨cutFinding, cutOthers, rfl, cutSpelling, cutBody⟩ := (body_row blank).mp cutBody
      obtain ⟨same, begins⟩ := ih body cutBody
      rw [cutSpelling.unique spelling, same]
      exact ⟨rfl, begins⟩

theorem Grammar.of_cut (cutOff : Text.CutLines cut lines)
    (grammar : Grammar lines findings metadata) (cutGrammar : Grammar cut cutFindings cutMetadata) :
    cutFindings = findings ∧ cutMetadata.text.toList <+: metadata.text.toList := by
  cases cutOff with
  | nil _ =>
    obtain ⟨_, _, _, _, lines⟩ := cutGrammar
    contradiction
  | last _ _ => exact absurd (grammar_cons.mp cutGrammar).2.length_gt (by simp)
  | cons _ later => exact Body.of_cut later (grammar_cons.mp grammar).2 (grammar_cons.mp cutGrammar).2

/-- Wherever the text of a transcript is cut off, it is refused, or it gives the same findings and the
beginning of the metadata row. -/
theorem read_cut_keeps_findings (package : String) {text cut : String} {scan : PackageScan}
    (accepted : read package (Text.Utf8.encode text) = .ok scan)
    (shorter : cut.toList <+: text.toList) :
    (∃ e, read package (Text.Utf8.encode cut) = .error e) ∨
    ∃ kept, read package (Text.Utf8.encode cut) = .ok kept ∧ kept.package = scan.package ∧
      kept.findings = scan.findings ∧ kept.metadata.text.toList <+: scan.metadata.text.toList := by
  cases result : read package (Text.Utf8.encode cut) with
  | error e => exact Or.inl ⟨e, rfl⟩
  | ok kept =>
    rw [read, Text.Utf8.decodeLossy_encode] at accepted result
    obtain ⟨named, grammar⟩ := readText_eq_ok.mp accepted
    obtain ⟨keptNamed, keptGrammar⟩ := readText_eq_ok.mp result
    have cutOff := Text.cutLines_of_isPrefix shorter
    obtain ⟨findings, begins⟩ := Grammar.of_cut cutOff grammar keptGrammar
    exact Or.inr ⟨kept, rfl, keptNamed.trans named.symm, findings, begins⟩

/-- A cut inside the metadata row. -/
theorem read_cut_in_metadata_row :
    let f : Finding := ⟨"p", "f", "g", "Unsafe", "src", "lib.rs", 10, 4⟩
    let front := Report.findings [f] ++ "\n" ++ MetadataRow.header ++ "\n"
    let scan : PackageScan := ⟨"p", [f], ⟨"5, 1"⟩⟩
    read "p" (Text.Utf8.encode (front ++ "5, 1" ++ "\n")) = .ok scan ∧
    (front ++ "5,").toList <+: (front ++ "5, 1" ++ "\n").toList ∧
    ((∃ e, read "p" (Text.Utf8.encode (front ++ "5,")) = .error e) ∨
      ∃ kept, read "p" (Text.Utf8.encode (front ++ "5,")) = .ok kept ∧ kept.package = scan.package ∧
        kept.findings = scan.findings ∧
        kept.metadata.text.toList <+: scan.metadata.text.toList) := by
  intro f front scan
  have expressible : f.Expressible := by decide +kernel
  have accepted : read "p" (Text.Utf8.encode (front ++ "5, 1" ++ "\n")) = .ok scan :=
    read_write "p" (by simpa using expressible) ⟨by decide +kernel, by decide +kernel⟩
  have shorter : ∀ front : String, (front ++ "5,").toList <+: (front ++ "5, 1" ++ "\n").toList := by
    intro front
    rw [String.append_assoc, String.toList_append, String.toList_append,
      List.prefix_append_right_inj]
    decide +kernel
  exact ⟨accepted, shorter front, read_cut_keeps_findings "p" accepted (shorter front)⟩

end Transcript
end EffectSurvey
