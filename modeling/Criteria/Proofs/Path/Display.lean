import Criteria.Proofs.Datum.Place
import Criteria.Proofs.Token.Respelling

/-!
# Paths as they are displayed

A path is displayed as the texts of its segments with points between them. Much of what a path may
be written with is not displayed: white space, pieces of which nothing is left, zeros in front of a
position. What is displayed **reads back** all the same (`Criteria.Path.ReadsBack`). It is a path
with the same segments, and with a dollar sign in front of it, the lexer takes it for one token and
the parser for a variable with these segments.

The paths that read back are those of well-formed segments, and all paths that are read from any
text are among them (`Criteria.displayed_paths_read_back`).
-/

namespace Criteria

/-- A path **reads back** from how it is displayed, as a path, as a token and as an expression. -/
structure Path.ReadsBack (path : Path) : Prop where
  read : Path.read path.text = .ok path
  tokens : (Lexer.ofText ("$" ++ path.text)).readAll = [.ok (.reference path.text), .ok .eof]
  prepared : ∃ p, Prepared.ofText ("$" ++ path.text) = .ok p ∧ p.tree = .ofPath path

/-- A text that is measured as a path to its end is one token behind a dollar sign. -/
theorem IsReadAs.variable {text : String} (h : Lexeme.Leads text.toList .outside .outside) :
    IsReadAs ('$' :: text.toList) [.reference text] := by
  have hlength : Lexeme.pathLength? .outside text.toList = some text.toList.length := by
    have hnil := h []
    rw [List.append_nil] at hnil
    rw [hnil]
    simp [Lexeme.pathLength?]
  refine .singleton (by simp) fun position => ?_
  rw [Lexeme.read_eq_ofChar rfl]
  change Lexeme.ofVariable position text.toList = _
  simp [Lexeme.ofVariable, hlength]

/-- The text of a variable is one token, with nothing behind it. -/
theorem Lexer.readAll_variable {path : Path} (h : ∀ s ∈ path, s.IsWellFormed) :
    (Lexer.ofText ("$" ++ path.text)).readAll = [.ok (.reference path.text), .ok .eof] := by
  have hread : IsReadAs (Lexer.ofText ("$" ++ path.text)).rest [.reference path.text] := by
    have hvariable := IsReadAs.variable (Lexeme.leads_text h)
    simpa [Lexer.ofText] using hvariable
  exact Lexer.readAll_of_isReadAs hread

/-- **Paths of well-formed segments read back.** -/
theorem Path.readsBack {path : Path} (h : ∀ s ∈ path, s.IsWellFormed) : path.ReadsBack := by
  refine ⟨Path.read_text h, Lexer.readAll_variable h, ⟨"$" ++ path.text, .ofPath path⟩, ?_, rfl⟩
  exact Prepared.ofText_eq_ok_iff.mpr ⟨rfl, parse_eq_ok_iff_parse.mp (parse_variable h)⟩

/-- **Displayed paths read back.** Whatever text a path is read from, the text that it is displayed
as reads back as this path. The paths that read back from their own texts are those of well-formed
segments. -/
theorem displayed_paths_read_back :
    (∀ (text : String) (path : Path), Path.read text = .ok path → path.ReadsBack) ∧
      ∀ path : Path, (∀ s ∈ path, s.IsWellFormed) ↔ path.ReadsBack := by
  refine ⟨fun text path h => Path.readsBack (Path.isWellFormed_of_read h), fun path => ?_⟩
  exact ⟨Path.readsBack, fun h => Path.isWellFormed_of_read h.read⟩

/-- The greatest position, an index without a key and a letter that is not of the ASCII range, in a
text with all that is not displayed. -/
theorem greatest_position_reads_back :
    let path : Path := [⟨"é-1", some (.position 18446744073709551615)⟩, ⟨"", some (.key "_")⟩]
    Path.read ". é-1[ 0018446744073709551615 ] . .[\"_\"\t]" = .ok path ∧
      path.text = "é-1[18446744073709551615].[\"_\"]" ∧ path.ReadsBack ∧
      ∀ s ∈ path, s.IsWellFormed := by
  intro path
  have hread : Path.read ". é-1[ 0018446744073709551615 ] . .[\"_\"\t]" = .ok path := by
    decide +kernel
  obtain ⟨hback, hwell⟩ := displayed_paths_read_back
  have hpath := hback _ path hread
  exact ⟨hread, by decide +kernel, hpath, (hwell path).mpr hpath⟩

end Criteria
