import EditorLink.Proofs.Document.Correspondence
import EditorLink.Proofs.Sorting
import EditorLink.Session.Command

/-!
# What a server finds and what the editor shows

Whatever a server finds in a document is told to the host at once: each finding whose ends the
document both has, and no other, with their offsets and in the order in which they start. Going
back from an offset leads to the place that the server named, unless that was past the last line;
then it leads to the end of the document.
-/
namespace EditorLink

/-- The line that tells a finding at a place of the file with a path. Lines and characters are
counted from one. -/
def Finding.line (f : Finding) (path : String) (p : Position) : String :=
  let source := match f.source with
    | none => ""
    | some s => if s = "" then "" else " [" ++ s ++ "]"
  let severity := (Severity.ofNumber f.severity).name
  s!"{path}:{p.line + 1}:{p.character + 1}: {severity}{source} {f.message}"

namespace Document
variable {d : Document} {f : Finding} {g : Diagnostic}

/-! ## The way back from an offset -/

/-- The place behind the last character. -/
def ending (d : Document) : Position := ⟨d.lastLine, (d.lines.getLast d.lines_ne_nil).length⟩

/-- The place on the lines of a document for which a position stands. -/
def placeOf (d : Document) (p : Position) : Position := if p.line < d.lineCount then p else d.ending

/-- The position of an offset on a line, if its numbers can be sent. -/
theorem positionOf_of_lineFrom {n c : Nat} {l : Line} (h : lineFrom 0 0 d.lines n = some l)
    (hc : c ≤ l.text.length) :
    d.positionOf ((l.start + c : Nat) : Int) = Position.sendable n c := by
  have hline : d.lineAt ((l.start + c : Nat) : Int) = .ok l :=
    lineAt_eq_ok.mpr ⟨Int.natCast_nonneg _, locateFrom_of_lineFrom h hc⟩
  have hcharacter : ((l.start + c : Nat) : Int) - l.start = c := by omega
  rw [positionOf, hline, ← hcharacter, ← number_of_lineFrom h]
  rfl

/-- The last line ends where the document ends. -/
theorem lineFrom_lastLine (d : Document) :
    ∃ l, lineFrom 0 0 d.lines d.lastLine = some l ∧
      l.text = d.lines.getLast d.lines_ne_nil ∧ l.stop = d.length := by
  have hsplit := (List.dropLast_concat_getLast d.lines_ne_nil).symm
  have hline := lineFrom_append 0 0 d.lines.dropLast (d.lines.getLast d.lines_ne_nil) []
  rw [← hsplit, List.length_dropLast] at hline
  have hextent := extent_append d.lines.dropLast (d.lines.getLast d.lines_ne_nil)
  rw [← hsplit] at hextent
  refine ⟨_, hline, rfl, ?_⟩
  rw [length, hextent, Line.stop]
  simp

theorem positionOf_length (d : Document) :
    d.positionOf d.length = Position.sendable d.ending.line d.ending.character := by
  obtain ⟨l, hl, htext, hstop⟩ := d.lineFrom_lastLine
  have hposition := positionOf_of_lineFrom hl (Nat.le_refl l.text.length)
  rwa [← Line.stop, hstop, htext] at hposition

/-- The offset of a position leads back to the place for which it stands. -/
theorem positionOf_eq_of_offsetOf? {p : Position} {o : Nat} (h : d.offsetOf? p = some o) :
    d.positionOf o = Position.sendable (d.placeOf p).line (d.placeOf p).character := by
  rw [placeOf]
  split
  · rename_i hline
    obtain ⟨l, hl, hnumber, h0, hc, ho⟩ := exists_lineFrom_of_offsetOf? h hline
    have hposition := positionOf_of_lineFrom (c := p.character.toNat) hl (by omega)
    have hoffset : l.start + p.character.toNat = o := by omega
    have hline0 : ((p.line.toNat : Nat) : Int) = p.line := by omega
    rwa [hoffset, Int.toNat_of_nonneg h0, hline0] at hposition
  · rename_i hpast
    obtain ⟨-, ⟨l, hl, -, -⟩ | ⟨-, -, rfl⟩⟩ := offsetOf?_eq_some.mp h
    · cases hl.symm.trans (lineCount_le_iff.mp (by omega))
    · exact d.positionOf_length

/-! ## Findings and diagnostics -/

theorem diagnostic?_eq_some :
    d.diagnostic? f = some g ↔ ∃ i j, d.offsetOf? f.range.start = some i ∧
      d.offsetOf? f.range.stop = some j ∧
      g = ⟨i, j, (Severity.ofNumber f.severity).name, f.message, f.source⟩ := by
  rw [diagnostic?, Option.map_eq_some_iff]
  constructor
  · rintro ⟨⟨i, j⟩, hoffsets, rfl⟩
    obtain ⟨hi, hj⟩ := offsetsOf?_eq_some.mp hoffsets
    exact ⟨i, j, hi, hj, rfl⟩
  · rintro ⟨i, j, hi, hj, rfl⟩
    exact ⟨(i, j), offsetsOf?_eq_some.mpr ⟨hi, hj⟩, rfl⟩

/-- A diagnostic is told at the place for which the start of the finding stands. -/
theorem report_of_diagnostic? (h : d.diagnostic? f = some g) (path : String) :
    d.report path g = (Position.sendable (d.placeOf f.range.start).line
      (d.placeOf f.range.start).character).map (f.line path) := by
  obtain ⟨i, j, hi, -, rfl⟩ := diagnostic?_eq_some.mp h
  rw [report, positionOf_eq_of_offsetOf? hi]
  cases Position.sendable (d.placeOf f.range.start).line (d.placeOf f.range.start).character <;> rfl

/-- Diagnostics show what a server has found in a document. -/
structure Shows (d : Document) (findings : List Finding) (shown : List Diagnostic) : Prop where
  /-- They come in the order in which they start, and else in that of the findings. -/
  sorted : SortedStably Diagnostic.start (findings.filterMap d.diagnostic?) shown
  /-- A finding is shown if the document has both of its ends, with their offsets. -/
  mapped : ∀ f g, d.diagnostic? f = some g ↔ ∃ i j, d.offsetOf? f.range.start = some i ∧
    d.offsetOf? f.range.stop = some j ∧
    g = ⟨i, j, (Severity.ofNumber f.severity).name, f.message, f.source⟩
  /-- The offsets lie inside the document, and in order if the ends of the finding do. -/
  inside : ∀ f g, d.diagnostic? f = some g →
    (0 ≤ g.start ∧ g.start ≤ d.length) ∧ (0 ≤ g.stop ∧ g.stop ≤ d.length) ∧
      (f.range.start.le f.range.stop = true → g.start ≤ g.stop)
  /-- A diagnostic is told where the finding starts, if that is on a line of the document, and else
  at the end of the document, unless the numbers of that place are too large for a position. -/
  told : ∀ f g path, d.diagnostic? f = some g →
    d.report path g = (Position.sendable (d.placeOf f.range.start).line
      (d.placeOf f.range.start).character).map (f.line path)

theorem shows_diagnostics (d : Document) (findings : List Finding) :
    d.Shows findings (d.diagnostics findings) where
  sorted := sortedStably_sortBy Diagnostic.start _
  mapped _ _ := diagnostic?_eq_some
  inside f g h := by
    obtain ⟨i, j, hi, hj, rfl⟩ := diagnostic?_eq_some.mp h
    have hi' := offsetOf?_le_length hi
    have hj' := offsetOf?_le_length hj
    refine ⟨⟨Int.natCast_nonneg _, Int.ofNat_le.mpr hi'⟩,
      ⟨Int.natCast_nonneg _, Int.ofNat_le.mpr hj'⟩, fun hle => ?_⟩
    exact Int.ofNat_le.mpr (offsetOf?_mono hi hj hle)
  told _ _ path h := report_of_diagnostic? h path

end Document

namespace Session

/-- A buffer for which diagnostics are on shows its host, once, what the server has found in its
document. -/
theorem shows_findings {s : Session} {place : Nat} {found : Publication}
    (about : found.uri = (s.buffer place).uri)
    (on : (s.buffer place).options.features .diagnostics = true)
    (wanted : (s.buffer place).options.showDiagnostics ≠ .missing) :
    ∃ shown, s.showFindings place ⟨Push.publishMethod, .findings found⟩ =
        s.record (.called place (.showDiagnostics shown)) ∧
      (s.buffer place).text.Shows found.findings shown := by
  refine ⟨_, ?_, (s.buffer place).text.shows_diagnostics found.findings⟩
  obtain ⟨fails, hfails⟩ := Option.ne_none_iff_exists'.mp wanted
  simp [showFindings, about, on, callHost, hfails]

/-- The host of a buffer acts on what it was shown. -/
theorem viewActs_findings {s : Session} {place : Nat} {found : Publication}
    (about : found.uri = (s.buffer place).uri)
    (on : (s.buffer place).options.features .diagnostics = true)
    (wanted : (s.buffer place).options.showDiagnostics ≠ .missing) :
    s.viewActs place ⟨Push.publishMethod, .findings found⟩ =
      s.settings.views s.trace.length place ((s.buffer place).text.diagnostics found.findings) := by
  obtain ⟨fails, hfails⟩ := Option.ne_none_iff_exists'.mp wanted
  simp [viewActs, showFindings, about, on, callHost, hfails, record]

/-- A host that was shown nothing does nothing. -/
theorem viewActs_of_unshown {s : Session} {place : Nat} {push : Push}
    (h : s.showFindings place push = s) : s.viewActs place push = [] := by
  simp [viewActs, h]

/-- A session with one buffer, whose host takes diagnostics. -/
def reviewing (text : String) : Session :=
  (start .standard).create
    { Buffer.fresh "a" "file:///a" "text"
        { BufferOptions.standard with showDiagnostics := .quiet } with
      text := .ofText text.toList }

/-- One finding past the last line, one past the end of a line, and two on the first line, of which
the first has no end behind its start. -/
def findings : List Finding :=
  [⟨⟨⟨7, 0⟩, ⟨7, 0⟩⟩, some 2, "past", none⟩, ⟨⟨⟨0, 3⟩, ⟨0, 4⟩⟩, none, "beside", none⟩,
    ⟨⟨⟨0, 2⟩, ⟨0, 1⟩⟩, some 1, "turned", some "lint"⟩, ⟨⟨⟨0, 2⟩, ⟨1, 0⟩⟩, some 9, "last", none⟩]

/-- The finding beside the lines is dropped, and the one that came first is shown last. -/
theorem shows_findings_reviewing :
    (reviewing "ab\nc").showFindings 0
        ⟨Push.publishMethod, .findings ⟨"file:///a", findings, .null⟩⟩ =
      (reviewing "ab\nc").record (.called 0 (.showDiagnostics
        [⟨2, 1, "error", "turned", some "lint"⟩, ⟨2, 3, "error", "last", none⟩,
          ⟨4, 4, "warning", "past", none⟩])) ∧
      ((reviewing "ab\nc").buffer 0).text.Shows findings
        [⟨2, 1, "error", "turned", some "lint"⟩, ⟨2, 3, "error", "last", none⟩,
          ⟨4, 4, "warning", "past", none⟩] := by
  have about : (⟨"file:///a", findings, .null⟩ : Publication).uri =
      ((reviewing "ab\nc").buffer 0).uri := rfl
  obtain ⟨shown, htold, hshows⟩ := shows_findings about rfl nofun
  have hshown : shown = [⟨2, 1, "error", "turned", some "lint"⟩, ⟨2, 3, "error", "last", none⟩,
      ⟨4, 4, "warning", "past", none⟩] := by
    have hkept : findings.filterMap ((reviewing "ab\nc").buffer 0).text.diagnostic? =
        [⟨4, 4, "warning", "past", none⟩, ⟨2, 1, "error", "turned", some "lint"⟩,
          ⟨2, 3, "error", "last", none⟩] := by decide +kernel
    rw [hshows.sorted.eq_sortBy, hkept]
    simp [sortBy, List.mergeSort]
  rw [← hshown]
  exact ⟨htold, hshows⟩

end Session
end EditorLink
