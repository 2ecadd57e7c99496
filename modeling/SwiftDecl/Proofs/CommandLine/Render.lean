import SwiftDecl.CommandLine
import SwiftDecl.Proofs.Document.Rendering

/-!
# Rendering a document

With the standard configuration a document is rendered in four steps: its path is found, its file is
read, its declaration is built and written. The first two can stop the program without a report, if
the path cannot be looked at or the bytes spell no text (`Stops`). All else that can be wrong with a
document is reported (`Reports`), and a declaration that has been built is always written to its
end. So a rendering that does not stop ends with a text or with a report (`render_ends`).
-/

namespace SwiftDecl.CommandLine

/-! ## Results of sessions -/

/-- The session has a result, whatever has been noted before. -/
def Session.Gives {α : Type} (s : Session α) (result : Except Failure α) : Prop :=
  ∀ notes, (s.run.run notes).1 = result

section Session

variable {α β : Type} {s : Session α} {a : α} {failure : Failure} {next : α → Session β}
  {result : Except Failure β}

theorem gives_pure (a : α) : (pure a : Session α).Gives (.ok a) :=
  fun _ => rfl

theorem gives_throw (failure : Failure) : (throw failure : Session α).Gives (.error failure) :=
  fun _ => rfl

theorem gives_note (source : Source) (text : String) : (note source text).Gives (.ok ()) :=
  fun _ => rfl

/-- What a session goes on with depends on the result of its first step. -/
theorem result_of_bind (s : Session α) (next : α → Session β) (notes : String) :
    ((s >>= next).run.run notes).1 =
      ((ExceptT.bindCont next (s.run.run notes).1).run (s.run.run notes).2).1 :=
  rfl

/-- After a step with a value the session goes on from there. -/
theorem Session.Gives.bind (h : s.Gives (.ok a)) (hnext : (next a).Gives result) :
    (s >>= next).Gives result := by
  intro notes
  rw [result_of_bind, h notes]
  exact hnext _

/-- A failed step ends the session. -/
theorem Session.Gives.bind_error (h : s.Gives (.error failure)) :
    (s >>= next).Gives (.error failure) := by
  intro notes
  rw [result_of_bind, h notes]
  rfl

/-- A checked step gives the value of the check. -/
theorem gives_of_ok {ε : Type} {kind : ε → Failure} {r : Except ε α} (h : r = .ok a) :
    (orFail kind r).Gives (.ok a) := by
  rw [h]
  exact gives_pure a

/-- A checked step gives the error of the check as a failure. -/
theorem gives_of_error {ε : Type} {kind : ε → Failure} {r : Except ε α} {e : ε} (h : r = .error e) :
    (orFail kind r).Gives (.error (kind e)) := by
  rw [h]
  exact gives_throw (kind e)

end Session

/-- If notes are not asked for, the outcome of a session follows from its result. -/
theorem outcome_eq {s t : Session String} {result : Except Failure String} (hs : s.Gives result)
    (ht : t.Gives result) : outcome false s = outcome false t := by
  have hsame : (s.run.run "").1 = (t.run.run "").1 := (hs "").trans (ht "").symm
  -- The notes can differ, and are not written.
  unfold outcome
  generalize s.run.run "" = first at hsame
  generalize t.run.run "" = second at hsame
  obtain ⟨_, _⟩ := first
  obtain ⟨_, _⟩ := second
  cases hsame
  rfl

/-- The outcome of a session with a text. -/
theorem outcome_of_text {s : Session String} {text : String} (h : s.Gives (.ok text)) :
    outcome false s = { ending := .exit 0, stdout := text } :=
  outcome_eq h (gives_pure text)

/-- The outcome of a session that stops. -/
theorem outcome_of_crash {s : Session String} {c : Crash} (h : s.Gives (.error (.crash c))) :
    outcome false s = { ending := .crash c } :=
  outcome_eq h (gives_throw (.crash c))

/-- The outcome of a session with a failure that is reported. -/
theorem outcome_of_failure {s : Session String} {failure : Failure}
    (h : s.Gives (.error failure)) (hreported : ∀ c, failure ≠ .crash c) :
    outcome false s =
      { ending := .exit 1, stderr := "Error: " ++ failure.message ++ "\n" } := by
  refine (outcome_eq h (gives_throw failure)).trans ?_
  have hnotes : "" ++ "Error: " = "Error: " := String.empty_append
  cases failure with
  | crash c => exact absurd rfl (hreported c)
  | _ => rw [← hnotes]; rfl

/-! ## What there is to render -/

/-- The path of a configuration beside a document. -/
def beside (document : Path) : Path :=
  document.parent.child configFileName

variable {files : FileTree} {directory : Path} {document : String} {p : Path}

/-- The file at a path can be read, and its bytes spell the text. -/
def HasText (files : FileTree) (p : Path) (text : String) : Prop :=
  ∃ bytes, files.read p = .ok bytes ∧ textOfBytes? bytes = some text

/-- The file at a path holds a document that describes the declaration. -/
def Declares (files : FileTree) (p : Path) (f : FunctionDecl) : Prop :=
  ∃ text d, HasText files p text ∧ Document.parse text p.text = .ok d ∧
    d.declaration p.text = .ok f

/-- What stops a rendering without a report: a document that means no path, a place for a
configuration that cannot be looked at, or a file whose bytes spell no text. -/
inductive Stops (files : FileTree) (directory : Path) (document : String) : Crash → Prop where
  | noPath : Path.isMeant document = false → Stops files directory document .noPath
  | unknownFile {fault : FileFault} : Path.isMeant document = true →
      files.holds (beside (directory.resolve document)) = .error fault →
        Stops files directory document (.unknownFile (beside (directory.resolve document)) fault)
  | encoding {bytes : List UInt8} : Path.isMeant document = true →
      files.holds (beside (directory.resolve document)) = .ok false →
        files.read (directory.resolve document) = .ok bytes → textOfBytes? bytes = none →
          Stops files directory document .encoding

/-- The reports on a file: it cannot be read, its text is no document, or its document gives no
declaration. -/
inductive Reports (files : FileTree) (p : Path) : String → Prop where
  | unreadable {fault : FileFault} : files.read p = .error fault →
      Reports files p (Failure.documentUnreadable p fault).message
  | invalid {text : String} {e : DocumentError} : HasText files p text →
      Document.parse text p.text = .error e → Reports files p e.message
  | refused {text : String} {d : Document} {e : DocumentError} : HasText files p text →
      Document.parse text p.text = .ok d → d.declaration p.text = .error e →
        Reports files p e.message

/-! ## The steps of a rendering -/

theorem pathOf_gives (h : Path.isMeant document = true) :
    (pathOf directory document).Gives (.ok (directory.resolve document)) := by
  rw [pathOf, if_pos h]
  exact gives_pure _

theorem pathOf_gives_noPath (h : Path.isMeant document = false) :
    (pathOf directory document).Gives (.error (.crash .noPath)) := by
  rw [pathOf, h, if_neg Bool.false_ne_true]
  exact gives_throw _

/-- Without a configuration beside the document there is to be none. -/
theorem configPath_gives (h : files.holds (beside p) = .ok false) :
    (configPath? files directory none p).Gives (.ok none) :=
  (gives_of_ok h).bind (gives_pure none)

theorem configPath_gives_unknown {fault : FileFault} (h : files.holds (beside p) = .error fault) :
    (configPath? files directory none p).Gives
      (.error (.crash (.unknownFile (beside p) fault))) :=
  (gives_of_error h).bind_error

theorem decode_gives {bytes : List UInt8} {text : String} (h : textOfBytes? bytes = some text) :
    (decode bytes).Gives (.ok text) := by
  rw [decode, h]
  exact gives_pure text

theorem decode_gives_encoding {bytes : List UInt8} (h : textOfBytes? bytes = none) :
    (decode bytes).Gives (.error (.crash .encoding)) := by
  rw [decode, h]
  exact gives_throw _

theorem loadDocument_gives {text : String} {d : Document} (h : HasText files p text)
    (hparsed : Document.parse text p.text = .ok d) : (loadDocument files p).Gives (.ok d) := by
  obtain ⟨bytes, hbytes, htext⟩ := h
  exact (gives_of_ok hbytes).bind ((decode_gives htext).bind (gives_of_ok hparsed))

theorem loadDocument_gives_unreadable {fault : FileFault} (h : files.read p = .error fault) :
    (loadDocument files p).Gives (.error (.documentUnreadable p fault)) :=
  (gives_of_error h).bind_error

theorem loadDocument_gives_encoding {bytes : List UInt8} (h : files.read p = .ok bytes)
    (hbytes : textOfBytes? bytes = none) :
    (loadDocument files p).Gives (.error (.crash .encoding)) :=
  (gives_of_ok h).bind (decode_gives_encoding hbytes).bind_error

theorem loadDocument_gives_invalid {text : String} {e : DocumentError} (h : HasText files p text)
    (hparsed : Document.parse text p.text = .error e) :
    (loadDocument files p).Gives (.error (Failure.ofDocumentError e)) := by
  obtain ⟨bytes, hbytes, htext⟩ := h
  exact (gives_of_ok hbytes).bind ((decode_gives htext).bind (gives_of_error hparsed))

theorem buildDeclaration_gives {d : Document} {f : FunctionDecl}
    (h : d.declaration p.text = .ok f) : (buildDeclaration d p).Gives (.ok f) :=
  (gives_note _ _).bind ((gives_of_ok h).bind ((gives_note _ _).bind (gives_pure f)))

theorem buildDeclaration_gives_refused {d : Document} {e : DocumentError}
    (h : d.declaration p.text = .error e) :
    (buildDeclaration d p).Gives (.error (Failure.ofDocumentError e)) :=
  (gives_note _ _).bind (gives_of_error h).bind_error

/-! ## Renderings -/

section Render

variable {isConcise : Bool} {result : Except Failure String}

/-- With the standard configuration a declaration is written with its standard modifiers left
out. -/
theorem standard_layout (f : FunctionDecl) (isConcise : Bool) :
    ({} : WriterConfig).layout f isConcise = f.layout .internal isConcise := by
  rw [WriterConfig.layout, Bool.or_false]

/-- With no configuration a rendering goes on with its document. -/
theorem render_gives (hmeant : Path.isMeant document = true)
    (hnone : files.holds (beside (directory.resolve document)) = .ok false)
    (h : Session.Gives (do
      let d ← loadDocument files (directory.resolve document)
      let f ← buildDeclaration d (directory.resolve document)
      match ({} : Writer).write (({} : WriterConfig).layout f isConcise) with
      | (w, none) => return endLine w.output
      | (_, some fault) => throw (.crash (.layout fault))) result) :
    (render files directory document none isConcise).Gives result := by
  refine (pathOf_gives hmeant).bind ((configPath_gives hnone).bind ?_)
  exact h

/-- A declaration that is built can be written. -/
theorem exists_writes {d : Document} {f : FunctionDecl} {label : String}
    (h : d.declaration label = .ok f) (isConcise : Bool) :
    ∃ w, ({} : Writer).Writes (f.layout .internal isConcise) w := by
  obtain ⟨⟨-, hgrammatical⟩, hdescribes⟩ := Document.declaration_eq_ok_iff.1 h
  have habstract := hgrammatical.abstract_statements
  by_cases hshort : f.IsShort isConcise
  · obtain ⟨w, hwrites, -⟩ := Document.writes_short hdescribes habstract hshort "  " .internal
    exact ⟨w, hwrites⟩
  · obtain ⟨w, hwrites, -⟩ := Document.writes_full hdescribes habstract hshort "  " .internal
    exact ⟨w, hwrites⟩

/-- A rendering that stops has no text and no report. -/
theorem outcome_of_stops {c : Crash} (h : Stops files directory document c) :
    outcome false (render files directory document none isConcise) = { ending := .crash c } := by
  apply outcome_of_crash
  cases h with
  | noPath hmeant => exact (pathOf_gives_noPath hmeant).bind_error
  | unknownFile hmeant hfault =>
    exact (pathOf_gives hmeant).bind (configPath_gives_unknown hfault).bind_error
  | encoding hmeant hnone hread hbytes =>
    exact render_gives hmeant hnone (loadDocument_gives_encoding hread hbytes).bind_error

/-- The declaration of a document is written with a line end. -/
theorem outcome_of_declares {f : FunctionDecl} {w : Writer}
    (hmeant : Path.isMeant document = true)
    (hnone : files.holds (beside (directory.resolve document)) = .ok false)
    (h : Declares files (directory.resolve document) f)
    (hwrites : ({} : Writer).Writes (f.layout .internal isConcise) w) :
    outcome false (render files directory document none isConcise) =
      { ending := .exit 0, stdout := endLine w.output } := by
  obtain ⟨text, d, htext, hparsed, hdeclared⟩ := h
  refine outcome_of_text (render_gives hmeant hnone ?_)
  refine (loadDocument_gives htext hparsed).bind ((buildDeclaration_gives hdeclared).bind ?_)
  rw [standard_layout, hwrites.write]
  exact gives_pure _

/-- An error that is no missing value of a scalar is a failure that is reported. -/
theorem outcome_of_document {s : Session String} {e : DocumentError}
    (h : s.Gives (.error (Failure.ofDocumentError e))) (hvalue : ∀ fault, e ≠ .value fault) :
    outcome false s = { ending := .exit 1, stderr := "Error: " ++ e.message ++ "\n" } := by
  have hfailure : Failure.ofDocumentError e = .document e := by
    cases e with
    | value fault => exact absurd rfl (hvalue fault)
    | _ => rfl
  rw [hfailure] at h
  exact outcome_of_failure h fun c hcrash => nomatch hcrash

/-- A text whose scalars have values is refused for another reason. -/
theorem parse_error_ne_value {text label : String} {e : DocumentError}
    (hvalues : ∀ fault, Yaml.load text ≠ .error (.value fault))
    (h : Document.parse text label = .error e) (fault : Yaml.ValueFault) : e ≠ .value fault := by
  rintro rfl
  unfold Document.parse at h
  cases hload : Yaml.load text with
  | error yamlFault =>
    cases yamlFault with
    | malformed => simp [hload] at h
    | value v => exact hvalues v hload
  | ok data =>
    cases data with
    | map fields =>
      simp only [hload] at h
      obtain ⟨_, -, hinvalid⟩ := mapError_eq_error_iff.1 h
      cases hinvalid
    | _ => simp [hload] at h

/-- A document is refused for another reason than a missing value. -/
theorem declaration_error_ne_value {d : Document} {label : String} {e : DocumentError}
    (h : d.declaration label = .error e) (fault : Yaml.ValueFault) : e ≠ .value fault := by
  obtain ⟨problem, -, rfl⟩ := mapError_eq_error_iff.1 h
  exact fun hvalue => nomatch hvalue

/-- What is reported is written as an error. -/
theorem outcome_of_reports {report : String} (hmeant : Path.isMeant document = true)
    (hnone : files.holds (beside (directory.resolve document)) = .ok false)
    (hvalues : ∀ text fault, HasText files (directory.resolve document) text →
      Yaml.load text ≠ .error (.value fault))
    (h : Reports files (directory.resolve document) report) :
    outcome false (render files directory document none isConcise) =
      { ending := .exit 1, stderr := "Error: " ++ report ++ "\n" } := by
  cases h with
  | unreadable hfault =>
    refine outcome_of_failure ?_ fun c hcrash => nomatch hcrash
    exact render_gives hmeant hnone (loadDocument_gives_unreadable hfault).bind_error
  | invalid htext hparsed =>
    refine outcome_of_document ?_ (parse_error_ne_value (fun v => hvalues _ v htext) hparsed)
    exact render_gives hmeant hnone (loadDocument_gives_invalid htext hparsed).bind_error
  | refused htext hparsed hrefused =>
    refine outcome_of_document ?_ (declaration_error_ne_value hrefused)
    exact render_gives hmeant hnone
      ((loadDocument_gives htext hparsed).bind (buildDeclaration_gives_refused hrefused).bind_error)

/-- A file whose bytes spell a text, if they can be read, declares a function or is reported. -/
theorem declares_or_reports
    (h : ∀ bytes, files.read p = .ok bytes → textOfBytes? bytes ≠ none) :
    (∃ f, Declares files p f) ∨ ∃ report, Reports files p report := by
  cases hread : files.read p with
  | error fault => exact .inr ⟨_, .unreadable hread⟩
  | ok bytes =>
    obtain ⟨text, hbytes⟩ := Option.ne_none_iff_exists'.1 (h bytes hread)
    have htext : HasText files p text := ⟨bytes, hread, hbytes⟩
    cases hparsed : Document.parse text p.text with
    | error e => exact .inr ⟨_, .invalid htext hparsed⟩
    | ok d =>
      cases hdeclared : d.declaration p.text with
      | error e => exact .inr ⟨_, .refused htext hparsed hdeclared⟩
      | ok f => exact .inl ⟨f, text, d, htext, hparsed, hdeclared⟩

/-- With no configuration beside it, a document stops the program if its path cannot be looked at or
its bytes spell no text. In any other case the program writes the declaration of the document with a
line end and ends with zero, or writes one report as an error and ends with one, if each scalar of
the document has a value. -/
theorem render_ends (files : FileTree) (directory : Path) (document : String) (isConcise : Bool)
    (hconfig : files.holds (beside (directory.resolve document)) ≠ .ok true)
    (hvalues : ∀ text fault, HasText files (directory.resolve document) text →
      Yaml.load text ≠ .error (.value fault)) :
    (∀ c, Stops files directory document c →
      outcome false (render files directory document none isConcise) = { ending := .crash c }) ∧
    ((∀ c, ¬ Stops files directory document c) →
      (∃ f w, Declares files (directory.resolve document) f ∧
        ({} : Writer).Writes (f.layout .internal isConcise) w ∧
        outcome false (render files directory document none isConcise) =
          { ending := .exit 0, stdout := endLine w.output }) ∨
      (∃ report, Reports files (directory.resolve document) report ∧
        outcome false (render files directory document none isConcise) =
          { ending := .exit 1, stderr := "Error: " ++ report ++ "\n" })) := by
  refine ⟨fun c hstops => outcome_of_stops hstops, fun hgoes => ?_⟩
  -- Nothing stops the rendering, so the path is found, no configuration is, and the bytes are text.
  have hmeant : Path.isMeant document = true := by
    cases hpath : Path.isMeant document with
    | true => rfl
    | false => exact absurd (.noPath hpath) (hgoes _)
  have hnone : files.holds (beside (directory.resolve document)) = .ok false := by
    cases hholds : files.holds (beside (directory.resolve document)) with
    | error fault => exact absurd (.unknownFile hmeant hholds) (hgoes _)
    | ok found =>
      cases found with
      | true => exact absurd hholds hconfig
      | false => rfl
  have hspelled (bytes : List UInt8) (hread : files.read (directory.resolve document) = .ok bytes) :
      textOfBytes? bytes ≠ none :=
    fun hbytes => hgoes _ (.encoding hmeant hnone hread hbytes)
  -- The document declares a function, which can be written, or is refused with a report.
  rcases declares_or_reports hspelled with ⟨f, hf⟩ | ⟨report, hreport⟩
  · have hdeclares := hf
    obtain ⟨text, d, -, -, hdeclared⟩ := hf
    obtain ⟨w, hwrites⟩ := exists_writes hdeclared isConcise
    exact .inl ⟨f, w, hdeclares, hwrites, outcome_of_declares hmeant hnone hdeclares hwrites⟩
  · exact .inr ⟨report, hreport, outcome_of_reports hmeant hnone hvalues hreport⟩

/-- A tree with one document. -/
def oneFile (bytes : List UInt8) : FileTree :=
  .ofEntries [⟨["a.yaml"], some bytes⟩]

/-- The bytes of a document with nothing but a name. -/
def nameBytes : List UInt8 :=
  [110, 97, 109, 101, 58, 32, 102]

/-- A function with a name is rendered with an empty body. -/
theorem render_name_ends :
    ∃ f w, Declares (oneFile nameBytes) ⟨["a.yaml"]⟩ f ∧
      ({} : Writer).Writes (f.layout .internal true) w ∧
      endLine w.output = "func f() \x7b\n\x7d\n" ∧
      outcome false (render (oneFile nameBytes) ⟨[]⟩ "a.yaml" none true) =
        { ending := .exit 0, stdout := endLine w.output } := by
  have hfile : (oneFile nameBytes).read ⟨["a.yaml"]⟩ = .ok nameBytes := by decide +kernel
  have hconfig : (oneFile nameBytes).holds (beside ⟨["a.yaml"]⟩) = .ok false := by decide +kernel
  have htext : textOfBytes? nameBytes = some "name: f" := by decide +kernel
  have hloaded : (Yaml.load "name: f").toOption.isSome = true := by decide +kernel
  -- The one file has one text, and that is loaded.
  have hvalues (text : String) (fault : Yaml.ValueFault)
      (h : HasText (oneFile nameBytes) ⟨["a.yaml"]⟩ text) :
      Yaml.load text ≠ .error (.value fault) := by
    obtain ⟨bytes, hread, hbytes⟩ := h
    cases hfile.symm.trans hread
    cases htext.symm.trans hbytes
    intro hload
    rw [hload] at hloaded
    cases hloaded
  -- The program is run, and what it prints tells which of the endings it is.
  have hstdout : (outcome false
      (render (oneFile nameBytes) ⟨[]⟩ "a.yaml" none true)).stdout = "func f() \x7b\n\x7d\n" := by
    decide +kernel
  obtain ⟨hstops, hends⟩ := render_ends (oneFile nameBytes) ⟨[]⟩ "a.yaml" true
    (fun h => by cases hconfig.symm.trans h) hvalues
  have hgoes (c : Crash) : ¬ Stops (oneFile nameBytes) ⟨[]⟩ "a.yaml" c := by
    intro h
    rw [hstops c h] at hstdout
    simp at hstdout
  rcases hends hgoes with ⟨f, w, hdeclares, hwrites, houtcome⟩ | ⟨report, -, houtcome⟩
  · refine ⟨f, w, hdeclares, hwrites, ?_, houtcome⟩
    rw [houtcome] at hstdout
    exact hstdout
  · rw [houtcome] at hstdout
    simp at hstdout

/-- Not every document that can be read is rendered or reported: bytes that spell no text stop the
program. -/
theorem render_stops_at_encoding :
    ¬ ∀ (files : FileTree) (directory : Path) (document : String) (isConcise : Bool),
      files.holds (beside (directory.resolve document)) ≠ .ok true →
      (∀ text fault, HasText files (directory.resolve document) text →
        Yaml.load text ≠ .error (.value fault)) →
      ∃ code, (outcome false (render files directory document none isConcise)).ending =
        .exit code := by
  intro hall
  have hfile : (oneFile [255]).read ⟨["a.yaml"]⟩ = .ok [255] := by decide +kernel
  have hconfig : (oneFile [255]).holds (beside ⟨["a.yaml"]⟩) = .ok false := by decide +kernel
  have hbytes : textOfBytes? [255] = none := by decide +kernel
  have hvalues (text : String) (fault : Yaml.ValueFault)
      (h : HasText (oneFile [255]) ⟨["a.yaml"]⟩ text) : Yaml.load text ≠ .error (.value fault) := by
    obtain ⟨bytes, hread, htext⟩ := h
    cases hfile.symm.trans hread
    cases hbytes.symm.trans htext
  have hstops : Stops (oneFile [255]) ⟨[]⟩ "a.yaml" .encoding :=
    .encoding (by decide) hconfig hfile hbytes
  obtain ⟨code, hcode⟩ := hall (oneFile [255]) ⟨[]⟩ "a.yaml" false
    (fun h => by cases hconfig.symm.trans h) hvalues
  rw [outcome_of_stops hstops] at hcode
  cases hcode

end Render

end SwiftDecl.CommandLine
